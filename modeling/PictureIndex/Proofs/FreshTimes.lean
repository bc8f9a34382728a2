import PictureIndex.Proofs.Findings
import PictureIndex.Proofs.SettledPictures
/-!
# Words that are up to date

A picture is left alone while its recorded time is the one it has.  So a record with the file's
present time must not hold words of an earlier content, although the file may be written at any
moment while its picture is being annotated.  This is so if every change of the file gives it a time
that it never had before (`TimesFresh`): the recorded time is the one that was read first, so if the
file has that time still, then it has not changed since (`TimesFresh.target?_eq`).

All this is about records that were written for the path itself (`words_are_up_to_date`).  The store
knows a path by its text, and a path that is no UTF-8 has the text of another one.  So a picture may
be left alone on account of the record of another picture (`row_of_lookalike_passes_for_own`).
-/

namespace PictureIndex

open Log

/-- The path of whose file a request asks the size and the time. -/
def Request.measured? : Request → Option Path
  | .info p => some p
  | _ => none

lemma Request.eq_info {r : Request} {p : Path} (h : r.measured? = some p) : r = .info p := by
  cases r with
  | info q => exact congrArg Request.info (Option.some.inj h)
  | _ => exact nomatch h

/-- The modification time of the file a path leads to, in microseconds as the index keeps it. -/
def FileTree.micros? (t : FileTree) (p : Path) : Option Int :=
  ((t.info? p).bind (·.modified)).map Instant.micros

lemma FileTree.info?_congr {t t' : FileTree} {p : Path} (h : t.target? p = t'.target? p) :
    t.info? p = t'.info? p := by
  rw [info?, info?, h]

lemma FileTree.micros?_congr {t t' : FileTree} {p : Path} (h : t.target? p = t'.target? p) :
    t.micros? p = t'.micros? p := by
  rw [micros?, micros?, info?_congr h]

namespace Simulation.Session

variable {first : Session} {moves : Nat → Move} {p : Path} {n : Nat}

/-- Whether every change of what a path leads to, up to some point, gives it a modification time
that it never had before. -/
def TimesFresh (first : Session) (moves : Nat → Move) (p : Path) (n : Nat) : Prop :=
  ∀ k < n, ∀ w ∈ (moves k).world?,
    w.files.target? p ≠ (first.after moves k).world.files.target? p →
    ∀ time ∈ w.files.micros? p, ∀ j ≤ k,
      (first.after moves j).world.files.micros? p ≠ some time

/-- A file changes only from outside. -/
lemma target?_move {s : Session} {v : Move}
    (houtside : ∀ w ∈ v.world?, w.files.target? p = s.world.files.target? p) :
    (s.move v).world.files.target? p = s.world.files.target? p :=
  world_move (R := fun w => w.files.target? p = s.world.files.target? p) houtside
    (fun _ r _ => by rw [(s.world.reply_frame r).1]) fun _ => rfl

lemma TimesFresh.mono {k : Nat} (h : first.TimesFresh moves p n) (hk : k ≤ n) :
    first.TimesFresh moves p k :=
  fun j hj => h j (by omega)

/-- **A file that has the same time as before has not changed.** -/
lemma TimesFresh.target?_eq (h : first.TimesFresh moves p n) {m : Nat} {time : Int}
    (hm : (first.after moves m).world.files.micros? p = some time)
    (hn : (first.after moves n).world.files.micros? p = some time) :
    ∀ k, m ≤ k → k ≤ n → (first.after moves k).world.files.target? p =
      (first.after moves n).world.files.target? p := by
  induction n with
  | zero =>
    intro k _ hk
    rw [Nat.le_zero.mp hk]
  | succ n ih =>
    intro k hmk hk
    rcases Nat.le_succ_iff.mp hk with hle | rfl
    swap
    · rfl
    have hsame : (first.after moves (n + 1)).world.files.target? p =
        (first.after moves n).world.files.target? p := by
      by_contra hne
      obtain ⟨w, hw, hchange⟩ : ∃ w ∈ (moves n).world?, w.files.target? p ≠
          (first.after moves n).world.files.target? p := by
        by_contra hnone
        exact hne (target?_move fun w hw => by_contra fun hchange => hnone ⟨w, hw, hchange⟩)
      have hnext : (first.after moves (n + 1)).world = w := by
        rw [after]
        cases hv : moves n <;> rw [hv] at hw <;> cases hw
        rfl
      rw [hnext] at hn
      exact h n (by omega) w hw hchange time hn m (by omega) hm
    rw [FileTree.micros?_congr hsame] at hn
    rw [hsame]
    exact ih (h.mono (by omega)) hn k hmk hle

/-! ## What was told -/

lemma Told.info_eq {s : Session} {v : Move} {generation : Nat} {a : Option FileInfo}
    (h : s.Told v generation (.info p) a) : a = s.world.files.info? p := by
  obtain ⟨-, delay, w, hreply⟩ := h
  exact (Reply.answer.inj (Prod.mk.inj hreply).1).1.symm

/-- A recorded time that was read is the one of the path's row. -/
lemma Told.recordedTime_eq {s : Session} {v : Move} {generation : Nat}
    {a : Except Error (Option Instant)} {time : Instant} {row : Row}
    (h : s.Told v generation (.recordedTime p) a) (htime : a.toOption = some (some time))
    (hrow : s.world.row? p = some row) : Instant.ofMicros? row.micros = some time := by
  obtain ⟨-, delay, w, hreply⟩ := h
  obtain ⟨rfl, -⟩ := Reply.answer.inj (Prod.mk.inj hreply).1
  obtain ⟨t, ht, hfind⟩ := Option.bind_eq_some_iff.mp hrow
  rw [World.query] at htime
  split at htime
  · cases htime
  · rw [Store.lastModified?_eq ht, hfind] at htime
    simpa [Except.toOption] using htime

/-! ## One stat for each item -/

section

variable {world : World} {c : Config} {backends : Backends} {gate : Option (Worker × Gate × Nat)}

/-- No generation is started in two moves. -/
lemma not_started_later (hlegal : ∀ k < n, (moves k).Legal) {item item' : Item}
    {generation l : Nat} {exhausted exhausted' : Bool} (hl : l < n)
    (h : .started item generation exhausted ∈
      Deed.log (((starting world c backends gate).after moves l).deeds (moves l))) :
    .started item' generation exhausted' ∉
      Deed.log (((starting world c backends gate).after moves n).deeds (moves n)) := by
  have hstarted : (item, generation) ∈
      starts (Deed.log ((starting world c backends gate).chronicle moves n)) := by
    obtain ⟨d, hd, hlog⟩ := List.mem_filterMap.mp h
    exact mem_starts (List.mem_filterMap.mpr ⟨d, mem_chronicle hl hd, hlog⟩)
  exact (budgeted_after world c backends gate hlegal).sound.not_started_again hstarted

/-- A task asks only after its item has been started. -/
lemma start_lt_of_asked (hlegal : ∀ k < n, (moves k).Legal) {item : Item} {generation l : Nat}
    {exhausted : Bool} {r : Request} (hl : l < n)
    (h : .started item generation exhausted ∈
      Deed.log (((starting world c backends gate).after moves l).deeds (moves l)))
    {i : Nat} (hi : i < n)
    (hasked : ((starting world c backends gate).after moves i).asked? (moves i) =
      some (generation, r)) : l < i := by
  rw [asked?_eq] at hasked
  obtain ⟨⟨task, r'⟩, hput, hsame⟩ := Option.map_eq_some_iff.mp hasked
  obtain ⟨rfl, rfl⟩ := Prod.mk.inj hsame
  obtain ⟨item', k, next, -, hk, ⟨l', exhausted', hstart, hreach⟩, -⟩ :=
    (chronicled world c backends gate fun k hk => hlegal k (by omega)).of_put hput
  have hlk := le_of_heard hreach
  by_contra hge
  exact not_started_later (fun k hk => hlegal k (by omega)) (by omega) hstart h

/-- An item that has written a record asks for nothing more. -/
lemma asked_lt_of_wrote (hlegal : ∀ k < n, (moves k).Legal) {generation x i : Nat}
    {record : Record} {r : Request} (hi : i < n)
    (hwrote : .wrote generation record ∈
      ((starting world c backends gate).after moves x).deeds (moves x))
    (hasked : ((starting world c backends gate).after moves i).asked? (moves i) =
      some (generation, r)) : i ≤ x := by
  by_contra hlt
  rw [asked?_eq] at hasked
  obtain ⟨⟨task, r'⟩, hput, hsame⟩ := Option.map_eq_some_iff.mp hasked
  obtain ⟨rfl, rfl⟩ := Prod.mk.inj hsame
  have hbudgeted := budgeted_after world c backends gate fun k (hk : k < i) => hlegal k (by omega)
  obtain ⟨hgeneration, hnone⟩ := hbudgeted.orderly.unwritten hbudgeted.sound hput
  have hpos := wrote_pos (mem_chronicle (by omega : x < i) hwrote)
  rw [hgeneration] at hpos
  omega

/-- **What is known of a record that was written.**  Its item's task was told the size and the time
in it in one move, asked for them in no other one, and found the words afterwards. -/
theorem stat_of_written (hlegal : ∀ k < n, (moves k).Legal) {generation : Nat} {record : Record}
    (hwrote : (generation, record) ∈
      Deed.writes ((starting world c backends gate).chronicle moves n)) :
    let first := starting world c backends gate
    let e := Pipeline.ofConfig c backends
    ∃ m < n, (first.after moves m).Told (moves m) generation (.info record.path)
        (some ⟨record.sizeBytes.toNat, some record.lastModified⟩) ∧
      (∀ w ∈ record.annotations.keys,
        e.Yields (first.answered moves generation m n) record.path w) ∧
      ∀ i < n, (first.after moves i).asked? (moves i) = some (generation, .info record.path) →
        i = m := by
  intro first e
  obtain ⟨d, hd, hdeed⟩ := List.mem_filterMap.mp hwrote
  obtain rfl : d = .wrote generation record := by
    cases d <;> cases hdeed
    rfl
  obtain ⟨x, hx, hwrote⟩ := exists_of_mem_chronicle hd
  obtain ⟨task, hput, rfl, -⟩ := mem_deeds_wrote.mp hwrote
  obtain ⟨item, l, exhausted, b, m, type, size, hpath, -, hrecord, hstart, hlb, hbm, hmx, -, -,
    hinfo, -, hmax, hsize, hwords, honce⟩ :=
    (chronicled world c backends gate fun k (hk : k < x) => hlegal k (by omega)).of_insert hput
  have hbytes : record.sizeBytes.toNat = size := hsize ▸ Config.toNat_ofNat_size hmax
  rw [hrecord, hbytes]
  refine ⟨m, by omega, hinfo, fun w hw => ?_, fun i hi hasked => honce i ?_ ?_ hasked⟩
  · exact (hwords w hw).mono fun r a ⟨k, hmk, hkx, htold⟩ => ⟨k, hmk, by omega, htold⟩
  · exact start_lt_of_asked hlegal (by omega) hstart hi hasked
  · rcases Nat.lt_or_eq_of_le (asked_lt_of_wrote hlegal hi hwrote hasked) with hlt | rfl
    · exact hlt
    · rw [asked?_eq, hput] at hasked
      cases hasked

/-- An item that is left alone as unchanged was told its file's time, and then the same recorded
time. -/
lemma told_of_unchanged (hlegal : ∀ k < n, (moves k).Legal) {d : Departure}
    (hd : d ∈ (starting world c backends gate).finished moves n)
    (hunchanged : d.outcome = some (.skipped .unchanged)) {l : Nat} {exhausted : Bool} (hl : l < n)
    (hstart : .started d.item d.generation exhausted ∈
      Deed.log (((starting world c backends gate).after moves l).deeds (moves l))) :
    let first := starting world c backends gate
    ∃ m q info time recorded, l < m ∧ m < q ∧ q < n ∧
      (first.after moves m).Told (moves m) d.generation (.info d.item.path) (some info) ∧
      info.modified = some time ∧
      (first.after moves q).Told (moves q) d.generation (.recordedTime d.item.path) recorded ∧
      recorded.toOption = some (some time) := by
  intro first
  obtain ⟨k, hk, l', exhausted', hstart', hreach⟩ :=
    (chronicled world c backends gate hlegal).left d hd _ hunchanged
  have hlk := le_of_heard hreach
  obtain rfl : l' = l := by
    rcases Nat.lt_trichotomy l' l with hlt | hsame | hgt
    · exact absurd hstart (not_started_later (fun k hk => hlegal k (by omega)) hlt hstart')
    · exact hsame
    · exact absurd hstart' (not_started_later (fun k hk => hlegal k (by omega)) hgt hstart)
  obtain ⟨-, _, _, _, _, -, -, info, time, ⟨a, rfl, hla, -, -⟩, ⟨b, rfl, hab, -, -⟩, -,
    ⟨m, rfl, hbm, -, hinfo⟩, -, -, ⟨b', rfl, hmb, -, -⟩, htime, hrest⟩ :=
    Pipeline.reaches_refresh hreach rfl
  have hrefresh : Plan.Abides (first.answered moves d.generation m n) _ _
      ((Pipeline.ofConfig c backends).refresh exhausted' d.item.path time info.sizeBytes) :=
    Pipeline.abides_refresh exhausted' time info.sizeBytes
  obtain ⟨recorded, ⟨q, hmq, hqn, hrecorded⟩, hsame⟩ :=
    abides_of_heard hrefresh hrest (by omega) hk rfl
  exact ⟨m, q, info, time, recorded, by omega, hmq, hqn, hinfo, htime, hrecorded, hsame⟩

/-- Whether a record tells at some point what is in the file that a path leads to, as far as the
task of a generation has found it out since some move. -/
structure Current (first : Session) (moves : Nat → Move) (e : Pipeline) (p : Path)
    (n generation : Nat) (record : Record) (m : Nat) : Prop where
  /-- The file has the size and the time of the record. -/
  info_eq : (first.after moves n).world.files.info? p =
    some ⟨record.sizeBytes.toNat, some record.lastModified⟩
  /-- It has not changed since. -/
  unchanged : ∀ k, m ≤ k → k ≤ n →
    (first.after moves k).world.files.target? p = (first.after moves n).world.files.target? p
  /-- All words come from answers that the task was given since. -/
  words : ∀ w ∈ record.annotations.keys, e.Yields (first.answered moves generation m n) p w

/-- A record that was written for the path has the size and the time that were read first.  If the
file has that time now, the record is up to date. -/
lemma current_of_written (hlegal : ∀ k < n, (moves k).Legal)
    (hfresh : (starting world c backends gate).TimesFresh moves p n) {generation : Nat}
    {record : Record} (hwrote : (generation, record) ∈
      Deed.writes ((starting world c backends gate).chronicle moves n)) (hpath : record.path = p) :
    let first := starting world c backends gate
    ∃ m < n, (first.after moves m).Told (moves m) generation (.info p)
        (some ⟨record.sizeBytes.toNat, some record.lastModified⟩) ∧
      ((first.after moves n).world.files.micros? p = some (Store.rowOf record).micros →
        first.Current moves (Pipeline.ofConfig c backends) p n generation record m) := by
  intro first
  obtain ⟨m, hm, hinfo, hwords, -⟩ := stat_of_written hlegal hwrote
  rw [hpath] at hinfo hwords
  refine ⟨m, hm, hinfo, fun hnow => ?_⟩
  have hthen := hinfo.info_eq
  have hsame := hfresh.target?_eq (m := m) (by rw [FileTree.micros?, ← hthen]; rfl) hnow
  refine ⟨?_, hsame, hwords⟩
  rw [hthen]
  exact FileTree.info?_congr (hsame m (Nat.le_refl m) (by omega)).symm

/-- An item that is started after the file has changed is not left alone on account of a record for
which the file was read before. -/
lemma row?_ne_of_changed (hlegal : ∀ k < n, (moves k).Legal)
    (hfresh : (starting world c backends gate).TimesFresh moves p n) {generation : Nat}
    {record : Record} (hwrote : (generation, record) ∈
      Deed.writes ((starting world c backends gate).chronicle moves n)) (hpath : record.path = p)
    {i j l : Nat} {w : World} {exhausted : Bool}
    (hasked : ((starting world c backends gate).after moves i).asked? (moves i) =
      some (generation, .info p))
    (hij : i ≤ j) (hv : moves j = .become w)
    (hchange : w.files.target? p ≠
      ((starting world c backends gate).after moves j).world.files.target? p)
    (hjl : j < l) (hln : l < n) {d : Departure}
    (hd : d ∈ (starting world c backends gate).finished moves n) (hitem : d.item.path = p)
    (hstart : .started d.item d.generation exhausted ∈
      Deed.log (((starting world c backends gate).after moves l).deeds (moves l)))
    (hunchanged : d.outcome = some (.skipped .unchanged)) :
    let first := starting world c backends gate
    ∃ q, l < q ∧ q < n ∧
      (first.after moves q).asked? (moves q) = some (d.generation, .recordedTime p) ∧
      (first.after moves q).world.row? p ≠ some (Store.rowOf record) := by
  intro first
  obtain ⟨m, hm, hinfo, -, honce⟩ := stat_of_written hlegal hwrote
  rw [hpath] at hinfo honce
  obtain rfl := honce i (by omega) hasked
  obtain ⟨m', q, info, time, recorded, hlm, hmq, hqn, hinfo', htime, hrecorded, hsame⟩ :=
    told_of_unchanged hlegal hd hunchanged hln hstart
  rw [hitem] at hinfo' hrecorded
  refine ⟨q, by omega, hqn, hrecorded.1, fun hrow => ?_⟩
  -- it would have been told the time that the former item was told before the change
  have hthen := hinfo.info_eq
  have hread := hrecorded.recordedTime_eq hsame hrow
  rw [show (Store.rowOf record).micros = record.lastModified.micros from rfl,
    FileTree.ofMicros?_of_info hthen.symm rfl] at hread
  obtain rfl := Option.some.inj hread
  have hfixed := (hfresh.mono (by omega : m' ≤ n)).target?_eq (m := i)
    (by rw [FileTree.micros?, ← hthen]; rfl)
    (by rw [FileTree.micros?, ← hinfo'.info_eq, Option.bind_some, htime]; rfl)
  have hnext : (first.after moves (j + 1)).world = w := by rw [after, hv]; rfl
  have hafter := hfixed (j + 1) (by omega) (by omega)
  rw [hnext, ← hfixed j hij (by omega)] at hafter
  exact hchange hafter

/-- **Words are up to date where times are.**  Take any session that starts afresh and any moves of
its parties in which every change of the file at a path gives it a modification time that it never
had before.

* For a record of the path that was written, there is a move in which its item's task was told the
  size and the time in it.  If the file has this time now, then the file has not changed since, it
  has that size, and all words come from answers that the task was given since.
* If nobody outside touches the row that the store gives for the path, then it is the one it had at
  the start or that of a record that was written for a path of the same text.  If it was written for
  the path itself and has the time that the file has now, then it has the size of the file now, and
  all its words come from answers given since the file changed last.
* If the file changes after the task of an item has asked for its time, and an item of the path that
  is started later is left alone as unchanged, then this is not on account of the record that the
  former has written: when the latter looked up the recorded time, the path had another row. -/
theorem words_are_up_to_date (world : World) (c : Config) (backends : Backends)
    (gate : Option (Worker × Gate × Nat)) (moves : Nat → Move) (p : Path) (n : Nat)
    (hlegal : ∀ k < n, (moves k).Legal)
    (hfresh : (starting world c backends gate).TimesFresh moves p n) :
    let first := starting world c backends gate
    let e := Pipeline.ofConfig c backends
    let last := first.after moves n
    (∀ generation record, (generation, record) ∈ Deed.writes (first.chronicle moves n) →
      record.path = p → ∃ m < n,
        (first.after moves m).Told (moves m) generation (.info p)
          (some ⟨record.sizeBytes.toNat, some record.lastModified⟩) ∧
        (last.world.files.micros? p = some (Store.rowOf record).micros →
          first.Current moves e p n generation record m)) ∧
    ((∀ k < n, ∀ w ∈ (moves k).world?, w.row? p = (first.after moves k).world.row? p) →
      ∀ row, last.world.row? p = some row → first.world.row? p = some row ∨
        ∃ generation record, (generation, record) ∈ Deed.writes (first.chronicle moves n) ∧
          record.path.text = p.text ∧ row = Store.rowOf record ∧
          (record.path = p → last.world.files.micros? p = some row.micros →
            ∃ m < n, first.Current moves e p n generation record m)) ∧
    ∀ generation record, (generation, record) ∈ Deed.writes (first.chronicle moves n) →
      record.path = p → ∀ i j l w exhausted,
      (first.after moves i).asked? (moves i) = some (generation, .info p) →
      i ≤ j → moves j = .become w →
      w.files.target? p ≠ (first.after moves j).world.files.target? p → j < l → l < n →
      ∀ d ∈ first.finished moves n, d.item.path = p →
      .started d.item d.generation exhausted ∈
        Deed.log ((first.after moves l).deeds (moves l)) →
      d.outcome = some (.skipped .unchanged) →
      ∃ q, l < q ∧ q < n ∧
        (first.after moves q).asked? (moves q) = some (d.generation, .recordedTime p) ∧
        (first.after moves q).world.row? p ≠ some (Store.rowOf record) := by
  intro first e last
  refine ⟨fun generation record hwrote hpath => current_of_written hlegal hfresh hwrote hpath,
    fun houtside row hrow => ?_, ?_⟩
  · refine (row?_after houtside hrow).imp_right ?_
    rintro ⟨generation, record, hdeed, htext, rfl⟩
    have hwrote : (generation, record) ∈ Deed.writes (first.chronicle moves n) :=
      List.mem_filterMap.mpr ⟨_, hdeed, rfl⟩
    refine ⟨generation, record, hwrote, htext, rfl, fun hpath hnow => ?_⟩
    obtain ⟨m, hm, -, hfound⟩ := current_of_written hlegal hfresh hwrote hpath
    exact ⟨m, hm, hfound hnow⟩
  · intro generation record hwrote hpath i j l w exhausted hasked hij hv hchange hjl hln d hd hitem
      hstart hunchanged
    exact row?_ne_of_changed hlegal hfresh hwrote hpath hasked hij hv hchange hjl hln hd hitem
      hstart hunchanged

end

/-! ### A picture that is written again -/

instance : Decidable (first.TimesFresh moves p n) := by
  unfold TimesFresh
  infer_instance

/-- The picture `/a.png`, of which text recognition says first one thing and then another. -/
def changingPicture : World :=
  { twoPictures with
    ocr := ⟨some 0, [.answer (.ok ⟨["Forest"]⟩) 0, .answer (.ok ⟨["Meadow"]⟩) 0]⟩ }

/-- The picture is submitted three times.  While it is looked at for the first time, after its size
and time have been read, its file is written anew; so it is annotated twice, and then it is left
alone. -/
def writtenMeanwhile : List Move :=
  let png : List UInt8 := [0x89, 0x50, 0x4E, 0x47, 0x0D, 0x0A, 0x1A, 0x0A]
  let rewritten := changingPicture.files.write pathA ⟨png, 17⟩ 5000
  let submitted : List Move := [.send (.submit pathA), .deliver]
  List.flatten [submitted, List.replicate 3 (.task 0),
    [.become { changingPicture with files := rewritten }], List.replicate 7 (.task 0),
    List.replicate 2 .deliver, submitted, List.replicate 10 (.task 0), List.replicate 2 .deliver,
    submitted, List.replicate 6 (.task 0), [.deliver]]

/-- The words of the earlier content are gone with it: the row of the picture is that of the record
that was written later. -/
theorem words_up_to_date_when_written_meanwhile :
    let c : Config := { onePicture with indexingLimit := none }
    let first := starting changingPicture c ⟨true, false⟩ none
    let moves (k : Nat) : Move := (writtenMeanwhile[k]?).getD .deliver
    ((∀ k < 38, (moves k).Legal) ∧ first.TimesFresh moves pathA 38) ∧
      (∃ record m, (2, record) ∈ Deed.writes (first.chronicle moves 38) ∧
        record.annotations.keys = ["meadow"] ∧
        (first.after moves 38).world.row? pathA = some (Store.rowOf record) ∧
        first.Current moves (Pipeline.ofConfig c ⟨true, false⟩) pathA 38 2 record m) ∧
      ∃ record q, (1, record) ∈ Deed.writes (first.chronicle moves 38) ∧
        record.annotations.keys = ["forest"] ∧
        (first.after moves q).asked? (moves q) = some (3, .recordedTime pathA) ∧
        (first.after moves q).world.row? pathA ≠ some (Store.rowOf record) := by
  intro c first moves
  have hlegal : ∀ k < 38, (moves k).Legal := by decide +kernel
  have hfresh : first.TimesFresh moves pathA 38 := by decide +kernel
  have hall : ∀ x ∈ Deed.writes (first.chronicle moves 38), x.2.path = pathA ∧
      ((Store.rowOf x.2).micros = 5 → x.1 = 2 ∧ x.2.annotations.keys = ["meadow"]) := by
    decide +kernel
  have hearlier : (Deed.writes (first.chronicle moves 38)).any
      (fun x => x.1 = 1 ∧ x.2.annotations.keys = ["forest"]) = true := by
    decide +kernel
  obtain ⟨⟨_, record⟩, hrecord, hsame⟩ := List.any_eq_true.mp hearlier
  obtain ⟨rfl, hwords⟩ := of_decide_eq_true hsame
  have hasked : (first.after moves 4).asked? (moves 4) = some (1, .info pathA) := by
    have hrequest : ((first.after moves 4).asked? (moves 4)).map (fun x => (x.1, x.2.measured?)) =
        some (1, some pathA) := by decide +kernel
    obtain ⟨⟨generation, r⟩, hasked, hsame⟩ := Option.map_eq_some_iff.mp hrequest
    obtain ⟨rfl, hstat⟩ := Prod.mk.inj hsame
    rw [hasked]
    exact congrArg (fun r => some (1, r)) (Request.eq_info hstat)
  have hchange : (changingPicture.files.write pathA
      ⟨[0x89, 0x50, 0x4E, 0x47, 0x0D, 0x0A, 0x1A, 0x0A], 17⟩ 5000).target? pathA ≠
        (first.after moves 5).world.files.target? pathA := by decide +kernel
  have hleft : ⟨⟨pathA, .examine⟩, 3, some (.skipped .unchanged)⟩ ∈ first.finished moves 38 := by
    decide +kernel
  have hstart : .started ⟨pathA, .examine⟩ 3 false ∈
      Deed.log ((first.after moves 30).deeds (moves 30)) := by decide +kernel
  have hnow : (first.after moves 38).world.files.micros? pathA = some 5 := by decide +kernel
  have hrow : ((first.after moves 38).world.row? pathA).map (·.micros) = some 5 := by decide +kernel
  have houtside : ∀ k < 38, ∀ w ∈ (moves k).world?,
      w.row? pathA = (first.after moves k).world.row? pathA := by decide +kernel
  have hnew : first.world.row? pathA = none := by decide +kernel
  have hfirst : starting changingPicture c ⟨true, false⟩ none = first := rfl
  obtain ⟨-, hrows, hunchanged⟩ :=
    words_are_up_to_date changingPicture c ⟨true, false⟩ none moves pathA 38 hlegal hfresh
  -- how the session came about does not matter from here on
  rw [hfirst] at hrows hunchanged
  clear_value first
  obtain ⟨row, hrow, hmicros⟩ := Option.map_eq_some_iff.mp hrow
  obtain ⟨generation, later, hlater, -, rfl, hfound⟩ :=
    (hrows houtside row hrow).resolve_left (by simp [hnew])
  obtain ⟨hpath, hfive⟩ := hall _ hlater
  obtain ⟨rfl, hmeadow⟩ := hfive hmicros
  obtain ⟨m, -, hcurrent⟩ := hfound hpath (hnow.trans (congrArg some hmicros.symm))
  obtain ⟨q, -, -, hlooked, hother⟩ := hunchanged 1 record hrecord (hall _ hrecord).1 4 5 30 _
    false hasked (by omega) rfl hchange (by omega) (by omega) _ hleft rfl hstart rfl
  exact ⟨⟨hlegal, hfresh⟩, ⟨later, m, hlater, hmeadow, hrow, hcurrent⟩,
    record, q, hrecord, hwords, hlooked, hother⟩

/-! ### A picture that is taken for another one -/

/-- Two pictures that were written at the same time.  The name of one is U+FFFD with an extension,
and that of the other one is no UTF-8 and has the same text. -/
def lookalikePictures : World :=
  { twoPictures with
    files :=
      let png : List UInt8 := [0x89, 0x50, 0x4E, 0x47, 0x0D, 0x0A, 0x1A, 0x0A]
      ⟨[([[0xEF, 0xBF, 0xBD, 0x2E, 0x70, 0x6E, 0x67]], .file ⟨png, 16⟩ 0),
        ([[0xFF, 0x2E, 0x70, 0x6E, 0x67]], .file ⟨png, 32⟩ 0)]⟩
    ocr := ⟨some 0, [.answer (.ok ⟨["Forest"]⟩) 0, .answer (.ok ⟨["River"]⟩) 0]⟩ }

/-- The first of them is submitted and annotated, and then the other one is submitted. -/
def oneAfterAnother : List Move :=
  List.flatten [[.send (.submit (.ofText "/\uFFFD.png")), .deliver],
    List.replicate 10 (.task 0), List.replicate 2 .deliver,
    [.send (.submit ⟨[Path.slash, 0xFF, 0x2E, 0x70, 0x6E, 0x67]⟩), .deliver],
    List.replicate 6 (.task 0), [.deliver]]

/-- **A record of one picture passes for that of another one.**  The second picture is left alone as
unchanged, and neither the decoder nor a backend was asked about it.  The row that the store gives
for it has its time, but the size of the first picture and a word that was read in the first one. -/
theorem row_of_lookalike_passes_for_own :
    let p : Path := ⟨[Path.slash, 0xFF, 0x2E, 0x70, 0x6E, 0x67]⟩
    let c : Config := { onePicture with indexingLimit := none }
    let first := starting lookalikePictures c ⟨true, false⟩ none
    let moves (k : Nat) : Move := (oneAfterAnother[k]?).getD .deliver
    let last := first.after moves 23
    (∀ k < 23, (moves k).Legal) ∧ first.TimesFresh moves p 23 ∧
      (∀ k < 23, ∀ w ∈ (moves k).world?, w.row? p = (first.after moves k).world.row? p) ∧
      first.world.row? p = none ∧
      last.world.row? p = some ⟨0, 16, Json.writeStrings ["forest"]⟩ ∧
      last.world.files.micros? p = some 0 ∧
      (last.world.files.info? p).map (·.sizeBytes) = some 32 ∧
      ⟨⟨p, .examine⟩, 2, some (.skipped .unchanged)⟩ ∈ first.finished moves 23 ∧
      ∀ k < 23, ∀ x ∈ (first.after moves k).asked? (moves k),
        x.1 = 2 → x.2.isOutward = false := by
  decide +kernel

end Simulation.Session

end PictureIndex
