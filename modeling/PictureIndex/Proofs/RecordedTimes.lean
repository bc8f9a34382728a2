import PictureIndex.Proofs.MergedWords
/-!
# Recorded times

Files have their times in nanoseconds, and the index keeps whole microseconds.  A time passes
through seconds and nanoseconds, a number of microseconds with a sign, the store, and seconds and
nanoseconds again.  All of these round down, before 1970 as well, so that what comes out is always
the last whole microsecond that is not after the time of the file (`Instant.inNanos_truncate`).

So a picture that has been annotated is left alone by later annotations just as long as its file's
time lies in the same microsecond.

* `recorded_time_is_floored_microsecond`: how times are rounded, which time a record has, and when a
  picture is left alone.
-/

namespace PictureIndex

namespace Instant

variable {ns ns' : ℤ} {t t' : Instant}

/-! ## Rounding down -/

/-- The nanoseconds since 1970. -/
def inNanos (t : Instant) : ℤ := t.secs * 1000000000 + t.nanos

/-- Whether there is an instant so many nanoseconds after the start of 1970. -/
def InRange (ns : ℤ) : Prop :=
  firstSecond * 1000000000 ≤ ns ∧ ns < (lastSecond + 1) * 1000000000

lemma exists_ofNanos? (h : InRange ns) : ∃ t, ofNanos? ns = some t := by
  obtain ⟨hfirst, hlast⟩ := h
  have hsecs : firstSecond ≤ ns / 1000000000 ∧ ns / 1000000000 ≤ lastSecond := by omega
  have hnanos : (ns % 1000000000).toNat < 1000000000 := by omega
  exact ⟨_, if_pos ⟨hsecs.1, hsecs.2, .inl hnanos⟩⟩

lemma ofNanos?_eq_some (h : ofNanos? ns = some t) : t.IsOrdinary ∧ t.inNanos = ns := by
  rw [ofNanos?, of?] at h
  split at h
  · rename_i hrange
    obtain rfl := Option.some.inj h
    have hnanos : (ns % 1000000000).toNat < 1000000000 := by omega
    refine ⟨⟨hrange.1, hrange.2.1, hnanos⟩, ?_⟩
    simp only [inNanos]
    omega
  · cases h

lemma inNanos_injective (h : t.IsOrdinary) (h' : t'.IsOrdinary) (heq : t.inNanos = t'.inNanos) :
    t = t' := by
  obtain ⟨-, -, hnanos⟩ := h
  obtain ⟨-, -, hnanos'⟩ := h'
  rw [inNanos, inNanos] at heq
  have hsecs : t.secs = t'.secs := by omega
  have hrest : t.nanos = t'.nanos := by omega
  cases t
  cases t'
  exact congrArg₂ Instant.mk hsecs hrest

lemma truncate_eq (h : t.IsOrdinary) : t.truncate = ⟨t.secs, t.nanos / 1000 * 1000⟩ := by
  rw [truncate, ofMicros?_micros h, Option.getD_some]

lemma isOrdinary_truncate (h : t.IsOrdinary) : t.truncate.IsOrdinary := by
  rw [truncate_eq h]
  exact ⟨h.1, h.2.1, (Nat.div_mul_le_self _ _).trans_lt h.2.2⟩

/-- Rounding leaves the whole microseconds. -/
lemma inNanos_truncate (h : t.IsOrdinary) : t.truncate.inNanos = t.inNanos / 1000 * 1000 := by
  simp only [truncate_eq h, inNanos]
  omega

/-- What is rounded down stays. -/
lemma truncate_truncate (h : t.IsOrdinary) : t.truncate.truncate = t.truncate := by
  have hagain := isOrdinary_truncate h
  refine inNanos_injective (isOrdinary_truncate hagain) hagain ?_
  rw [inNanos_truncate hagain, inNanos_truncate h]
  omega

end Instant

namespace FileTree

variable {files files' : FileTree} {p : Path} {content content' : FileContent} {a b : ℤ}

/-- The time of a file is kept as its microsecond. -/
lemma keptTime?_of_inRange (h : Instant.InRange a) :
    ∃ time, keptTime? a = some time ∧ time.IsOrdinary ∧ time.inNanos = a / 1000 * 1000 := by
  obtain ⟨t, ht⟩ := Instant.exists_ofNanos? h
  obtain ⟨hordinary, rfl⟩ := Instant.ofNanos?_eq_some ht
  exact ⟨t.truncate, by rw [keptTime?, ht, Option.map_some], Instant.isOrdinary_truncate hordinary,
    Instant.inNanos_truncate hordinary⟩

/-- Times are kept alike if they lie in the same microsecond. -/
lemma keptTime?_eq_iff (ha : Instant.InRange a) (hb : Instant.InRange b) :
    keptTime? a = keptTime? b ↔ a / 1000 = b / 1000 := by
  obtain ⟨time, htime, hordinary, hnanos⟩ := keptTime?_of_inRange ha
  obtain ⟨time', htime', hordinary', hnanos'⟩ := keptTime?_of_inRange hb
  rw [htime, htime', Option.some.injEq]
  constructor
  · rintro rfl
    omega
  · intro heq
    exact Instant.inNanos_injective hordinary hordinary' (by rw [hnanos, hnanos', heq])

lemma info?_of_target? (h : files.target? p = some (.file content a)) :
    files.info? p = some ⟨content.size, keptTime? a⟩ := by
  rw [info?, h]

lemma modifiedAt?_of_target? (h : files.target? p = some (.file content a)) :
    files.modifiedAt? p = keptTime? a := by
  rw [modifiedAt?, h]

lemma modified_isSome {time : Instant} (htime : keptTime? a = some time)
    (h : files.target? p = some (.file content a)) :
    ∀ info, files.info? p = some info → info.modified.isSome := by
  rw [info?_of_target? h, htime]
  rintro info ⟨⟩
  rfl

end FileTree

lemma Store.pictures_ne_none_of_lastModified? {s : Store} {p : Path} {recorded : Option Instant}
    (h : s.lastModified? p = .ok recorded) : s.pictures ≠ none := by
  intro hnone
  simp [lastModified?, pictureTable, hnone, bind, Except.bind] at h

namespace Pipeline

open Plan

variable {e : Pipeline} {files : FileTree} {p : Path} {exhausted : Bool} {s s' : Store}
  {log log' : List Exchange} {outcome : Outcome} {time : Instant} {size n : Nat}
  {content : FileContent} {a : ℤ}

/-! ## The recorded time in an annotation -/

/-- Whether the store has told the recorded time of a path whenever it was asked. -/
def Recalled (p : Path) (log : List Exchange) : Prop :=
  ∀ error, (⟨.recordedTime p, .error error⟩ : Exchange) ∉ log

lemma refresh_eq : e.refresh exhausted p time size = .ask (.recordedTime p) fun recorded =>
    if Except.toOption recorded = some (some time) then .done (.skipped .unchanged)
    else if exhausted then .done (.skipped .budgetReached) else e.develop p time size :=
  rfl

namespace Ending

variable {rs : List Request}

lemma eq_of_unchanged (h : e.Ending p time size s (.skipped .unchanged) rs s') :
    rs = [] ∧ s' = s := by
  cases h
  exact ⟨rfl, rfl⟩

/-- The record of an annotated picture has the time that was read. -/
lemma lastModified?_of_annotated (h : e.Ending p time size s (.annotated n) rs s')
    (htime : Instant.ofMicros? time.micros = some time) :
    s'.lastModified? p = .ok (some time) := by
  cases h with
  | annotated bitmap words hinsert =>
    obtain ⟨t, -, rfl⟩ := Store.exists_of_insert hinsert
    rw [Store.lastModified?_eq rfl, Table.find?_insert, if_pos rfl]
    exact congrArg Except.ok htime

end Ending

/-- The annotation of a picture looks up its recorded time. -/
lemma looks_up_of_annotate (hpicture : files.LeadsToPicture e.maxSize p)
    (hruns : Runs (Store.heard files) (s, []) (e.annotate exhausted p) outcome (s', log)) :
    ∃ info time recorded new, files.info? p = some info ∧ info.modified = some time ∧
      (recorded = s.lastModified? p ∨ ∃ error, recorded = .error error) ∧
      log = [⟨.info p, some info⟩, ⟨.sniff p, files.pictureType p⟩,
        ⟨.recordedTime p, recorded⟩] ++ new ∧
      e.Ending p time info.sizeBytes s outcome (asked new) s' ∧
      (outcome = .skipped .unchanged ↔ recorded = Except.ok (some time)) ∧
      (outcome = .skipped .budgetReached ↔
        recorded ≠ Except.ok (some time) ∧ exhausted = true) := by
  obtain ⟨hno, -⟩ | ⟨-, info, time, recorded, new, hinfo, hmodified, rfl, hending⟩ :=
    annotate_cases hruns
  · exact absurd hpicture hno
  refine ⟨info, time, recorded, new, hinfo, hmodified, ?_, rfl, hending⟩
  obtain ⟨hno, -⟩ | ⟨-, info', time', -, -, hrefresh⟩ := heard_of_annotate hruns
  · exact absurd hpicture hno
  rw [refresh_eq] at hrefresh
  obtain ⟨answer, a', hanswer, hrest⟩ := runs_heard_ask.mp hrefresh
  obtain rfl : answer = recorded := by
    obtain ⟨later, hlater⟩ := hrest.log_prefix
    simp only [List.cons_append, List.nil_append, List.cons.injEq] at hlater
    cases hlater.2.2.1
    rfl
  exact hanswer.imp (·.1) (·.1)

/-- A store that has its table need not refuse anything. -/
lemma exists_granted (files : FileTree) (hs : s.pictures ≠ none) {r : Request} (hr : r ≠ .abort) :
    ∃ answer s', Store.falters files s r answer s' ∧ s'.pictures ≠ none ∧ ¬ r.Refused answer := by
  obtain ⟨t, ht⟩ := Option.ne_none_iff_exists'.mp hs
  cases r with
  | insert record =>
    exact ⟨.ok (), _, Store.falters_insert.mpr (.inl ⟨rfl, Store.insert_eq ht record⟩), by simp,
      by simp [Request.Refused]⟩
  | remove q =>
    exact ⟨.ok (), _, Store.falters_remove.mpr (.inl ⟨rfl, Store.remove_eq ht q⟩), by simp,
      by simp [Request.Refused]⟩
  | recordedTime q =>
    exact ⟨_, s, .inl ⟨rfl, rfl⟩, hs, by simp [Request.Refused, Store.lastModified?_eq ht]⟩
  | under q =>
    refine ⟨_, s, .inl ⟨rfl, rfl⟩, hs, ?_⟩
    simp [Request.Refused, Store.under, Store.pictureTable, ht]
  | decode q => exact ⟨none, s, .inl ⟨trivial, rfl⟩, hs, id⟩
  | recognise bitmap => exact ⟨.error (.ocr ""), s, .inl ⟨trivial, rfl⟩, hs, id⟩
  | classify q => exact ⟨.error (.classifier ""), s, .inl ⟨trivial, rfl⟩, hs, id⟩
  | arm => exact ⟨(), s, .inl rfl, hs, id⟩
  | abort => exact absurd rfl hr
  | _ => exact ⟨_, s, .inl ⟨rfl, rfl⟩, hs, id⟩

/-- A file whose time can be told can be annotated with its recorded time told. -/
lemma exists_recalled (e : Pipeline) (exhausted : Bool)
    (htime : ∀ info, files.info? p = some info → info.modified.isSome)
    (hs : s.pictures ≠ none) : ∃ outcome s' log, Recalled p log ∧
      Runs (Store.heard files) (s, []) (e.annotate exhausted p) outcome (s', log) := by
  obtain ⟨outcome, s', log, hruns, hlog⟩ := exists_heard
    (fun s r hs hr => exists_granted files hs hr) (abides_annotate htime) hs []
  exact ⟨outcome, s', log, fun error hmem => hlog _ hmem ⟨error, rfl⟩, hruns⟩

/-- An annotated picture has the time of its file in its record. -/
lemma lastModified?_of_annotated (htime : FileTree.keptTime? a = some time)
    (hfile : files.target? p = some (.file content a))
    (hruns : Runs (Store.heard files) (s, []) (e.annotate exhausted p) (.annotated n) (s', log)) :
    s'.lastModified? p = .ok (some time) := by
  have hinfo := FileTree.info?_of_target? hfile
  rw [htime] at hinfo
  obtain ⟨-, houtcome, -⟩ | ⟨-, info, time', recorded, new, hinfo', hmodified, -, hending, -⟩ :=
    annotate_cases hruns
  · cases houtcome
  · obtain rfl := Option.some.inj (hinfo'.symm.trans hinfo)
    obtain rfl := Option.some.inj hmodified
    exact hending.lastModified?_of_annotated (FileTree.ofMicros?_of_keptTime htime)

/-- A picture is left alone if its time is the recorded one, and decoded if not and there is budget
left. -/
lemma annotate_of_recalled {recorded : Option Instant}
    (hpicture : files.LeadsToPicture e.maxSize p) (htime : FileTree.keptTime? a = some time)
    (hfile : files.target? p = some (.file content a))
    (hrecorded : s.lastModified? p = .ok recorded)
    (hruns : Runs (Store.heard files) (s, []) (e.annotate exhausted p) outcome (s', log))
    (hrecalled : Recalled p log) :
    (outcome = .skipped .unchanged ↔ recorded = some time) ∧
      (recorded = some time → s' = s ∧ asked log = [.info p, .sniff p, .recordedTime p]) ∧
      (recorded ≠ some time → exhausted = false → .decode p ∈ asked log) := by
  have hread := FileTree.info?_of_target? hfile
  rw [htime] at hread
  obtain ⟨info, time', answer, new, hinfo, hmodified, hanswer, rfl, hending, hunchanged, hbudget⟩ :=
    looks_up_of_annotate hpicture hruns
  obtain rfl := Option.some.inj (hinfo.symm.trans hread)
  obtain rfl := Option.some.inj hmodified
  obtain rfl : answer = .ok recorded := by
    rcases hanswer with rfl | ⟨error, rfl⟩
    · exact hrecorded
    · exact absurd (by simp) (hrecalled error)
  rw [Except.ok.injEq] at hunchanged
  refine ⟨hunchanged, fun hsame => ?_, fun hother hleft => ?_⟩
  · obtain rfl := hunchanged.mpr hsame
    obtain ⟨hnew, rfl⟩ := hending.eq_of_unchanged
    exact ⟨rfl, by simp [hnew]⟩
  · have hbudget : outcome ≠ .skipped .budgetReached := by
      rw [Ne, hbudget, hleft]
      simp
    exact List.mem_append_right [.info p, .sniff p, .recordedTime p]
      (hending.decode_mem (mt hunchanged.mp hother) hbudget)

/-- **A picture is left alone as long as its time lies in the microsecond that was recorded.**

* A number of nanoseconds since 1970 for which there is an instant, before 1970 as well, is that of
  one instant.  Rounding this down gives the last whole microsecond that is not after it, so less
  than a microsecond is lost; rounding again gives the same, and a later instant is not rounded to
  an earlier one.
* When the picture at a path has been annotated, the recorded time is that of its file rounded down.
* Whatever happens later, as long as this time is recorded, it is the time of the file then if and
  only if the two times of the file, rounded down to whole microseconds, are the same.  And if a
  picture worth indexing is there then, it can be annotated; and if the store does tell the recorded
  time, the picture is passed over as unchanged in just this case.  Then nothing else has been asked
  and the store is as it was.  In the other case, if there is budget left, it is decoded. -/
theorem recorded_time_is_floored_microsecond :
    (∀ ns, Instant.InRange ns → ∃ t, Instant.ofNanos? ns = some t ∧ t.inNanos = ns ∧
      t.truncate.inNanos = ns / 1000 * 1000 ∧
      t.truncate.inNanos ≤ ns ∧ ns < t.truncate.inNanos + 1000 ∧
      t.truncate.truncate = t.truncate ∧
      ∀ ns' t', ns ≤ ns' → Instant.ofNanos? ns' = some t' →
        t.truncate.inNanos ≤ t'.truncate.inNanos) ∧
    ∀ (e : Pipeline) (files : FileTree) (p : Path) (content : FileContent) (a : ℤ)
      (exhausted : Bool) (s s' : Store) (n : Nat) (log : List Exchange), Instant.InRange a →
      files.target? p = some (.file content a) →
      Runs (Store.heard files) (s, []) (e.annotate exhausted p) (.annotated n) (s', log) →
      (∃ time, s'.lastModified? p = .ok (some time) ∧ files.modifiedAt? p = some time ∧
        time.inNanos = a / 1000 * 1000) ∧
      ∀ (files' : FileTree) (content' : FileContent) (b : ℤ) (s₁ : Store), Instant.InRange b →
        files'.target? p = some (.file content' b) →
        s₁.lastModified? p = s'.lastModified? p →
        (s₁.lastModified? p = .ok (files'.modifiedAt? p) ↔ a / 1000 = b / 1000) ∧
        ∀ (e' : Pipeline) (exhausted' : Bool), files'.LeadsToPicture e'.maxSize p →
          (∃ outcome s₂ log', Recalled p log' ∧
            Runs (Store.heard files') (s₁, []) (e'.annotate exhausted' p) outcome (s₂, log')) ∧
          ∀ outcome s₂ log', Recalled p log' →
            Runs (Store.heard files') (s₁, []) (e'.annotate exhausted' p) outcome (s₂, log') →
            (outcome = .skipped .unchanged ↔ a / 1000 = b / 1000) ∧
            (a / 1000 = b / 1000 →
              s₂ = s₁ ∧ asked log' = [.info p, .sniff p, .recordedTime p]) ∧
            (a / 1000 ≠ b / 1000 → exhausted' = false → .decode p ∈ asked log') := by
  refine ⟨fun ns hns => ?_, fun e files p content a exhausted s s' n log ha hfile hruns => ?_⟩
  · obtain ⟨t, ht⟩ := Instant.exists_ofNanos? hns
    obtain ⟨hordinary, rfl⟩ := Instant.ofNanos?_eq_some ht
    have hround := Instant.inNanos_truncate hordinary
    refine ⟨t, ht, rfl, hround, by omega, by omega, Instant.truncate_truncate hordinary, ?_⟩
    intro ns' t' hle ht'
    obtain ⟨hordinary', rfl⟩ := Instant.ofNanos?_eq_some ht'
    have hround' := Instant.inNanos_truncate hordinary'
    omega
  obtain ⟨time, htime, -, hnanos⟩ := FileTree.keptTime?_of_inRange ha
  have hrecorded := lastModified?_of_annotated htime hfile hruns
  refine ⟨⟨time, hrecorded, (FileTree.modifiedAt?_of_target? hfile).trans htime, hnanos⟩, ?_⟩
  intro files' content' b s₁ hb hfile' hsame
  rw [hrecorded] at hsame
  obtain ⟨time', htime', -⟩ := FileTree.keptTime?_of_inRange hb
  have hagree : time = time' ↔ a / 1000 = b / 1000 := by
    rw [← FileTree.keptTime?_eq_iff ha hb, htime, htime', Option.some.injEq]
  refine ⟨?_, fun e' exhausted' hpicture => ⟨exists_recalled e' exhausted'
    (FileTree.modified_isSome htime' hfile') ?_, ?_⟩⟩
  · rw [hsame, FileTree.modifiedAt?_of_target? hfile', htime', Except.ok.injEq, Option.some.injEq,
      hagree]
  · exact Store.pictures_ne_none_of_lastModified? hsame
  · intro outcome s₂ log' hrecalled hruns'
    have hconduct := annotate_of_recalled hpicture htime' hfile' hsame hruns' hrecalled
    simpa only [Option.some.injEq, ne_eq, hagree] using hconduct

/-- A picture in the root directory that was last modified at some time. -/
def pictureOf (modified : ℤ) : FileTree :=
  ⟨[([[0x61, 0x2E, 0x70, 0x6E, 0x67]], .file ⟨PictureType.pngSignature, 16⟩ modified)]⟩

lemma pictureOf_leadsToPicture (modified : ℤ) :
    (pictureOf modified).target? winterPath = some (.file ⟨PictureType.pngSignature, 16⟩ modified) ∧
      (pictureOf modified).LeadsToPicture readerAndClassifier.maxSize winterPath := by
  have htarget : (pictureOf modified).target? winterPath =
      some (.file ⟨PictureType.pngSignature, 16⟩ modified) := rfl
  exact ⟨htarget, _, modified, htarget, by decide, by decide, by decide, by decide⟩

/-- A picture from the last nanosecond before 1970 is recorded with the microsecond before, left
alone with any other time in that one, and decoded again with the first time of 1970. -/
theorem recorded_time_is_floored_microsecond_before_1970 :
    ∃ n s log, Runs (Store.heard (pictureOf (-1))) (Store.new, [])
        (readerAndClassifier.annotate false winterPath) (.annotated n) (s, log) ∧
      s.lastModified? winterPath = .ok (some ⟨-1, 999999000⟩) ∧
      (∃ log', Recalled winterPath log' ∧ Runs (Store.heard (pictureOf (-1000))) (s, [])
        (readerAndClassifier.annotate false winterPath) (.skipped .unchanged) (s, log')) ∧
      ∃ outcome s' log', Recalled winterPath log' ∧ Runs (Store.heard (pictureOf 0)) (s, [])
        (readerAndClassifier.annotate false winterPath) outcome (s', log') ∧
        outcome ≠ .skipped .unchanged ∧ .decode winterPath ∈ asked log' := by
  have hrange : Instant.InRange (-1) ∧ Instant.InRange (-1000) ∧ Instant.InRange 0 := by
    simp only [Instant.InRange, Instant.firstSecond, Instant.lastSecond]
    omega
  obtain ⟨hfirst, hsecond, hthird⟩ := hrange
  have hkept : FileTree.keptTime? (-1) = some ⟨-1, 999999000⟩ := by decide
  obtain ⟨hfile, hpicture⟩ := pictureOf_leadsToPicture (-1)
  obtain ⟨hfile₁, hpicture₁⟩ := pictureOf_leadsToPicture (-1000)
  obtain ⟨hfile₂, hpicture₂⟩ := pictureOf_leadsToPicture 0
  obtain ⟨outcome, s, log, hruns, hlog⟩ := exists_consulted hpicture
    (FileTree.modified_isSome hkept hfile) (s := Store.new) (by decide) (.ok snowAndIce)
    (.ok failedLabel)
  obtain ⟨info, time, -, -, ⟨-, rfl, -⟩ | ⟨hfails, -⟩⟩ := annotate_of_consulted rfl hruns hlog
  swap
  · exact absurd (.inl ⟨rfl, _, rfl⟩) hfails
  obtain ⟨⟨time', hrecorded, hmodified, -⟩, hlater⟩ :=
    recorded_time_is_floored_microsecond.2 _ _ _ _ _ _ _ _ _ _ hfirst hfile hruns
  rw [FileTree.modifiedAt?_of_target? hfile, hkept, Option.some.injEq] at hmodified
  subst hmodified
  obtain ⟨-, hagain⟩ := hlater _ _ _ s hsecond hfile₁ rfl
  obtain ⟨⟨outcome₁, s₁, log₁, hrecalled₁, hruns₁⟩, hconduct₁⟩ := hagain _ false hpicture₁
  obtain ⟨hunchanged, hsame, -⟩ := hconduct₁ _ _ _ hrecalled₁ hruns₁
  obtain rfl := hunchanged.mpr (by decide)
  obtain ⟨rfl, -⟩ := hsame (by decide)
  obtain ⟨-, hanew⟩ := hlater _ _ _ s₁ hthird hfile₂ rfl
  obtain ⟨⟨outcome₂, s₂, log₂, hrecalled₂, hruns₂⟩, hconduct₂⟩ := hanew _ false hpicture₂
  obtain ⟨hchanged, -, hdecoded⟩ := hconduct₂ _ _ _ hrecalled₂ hruns₂
  exact ⟨_, s₁, log, hruns, hrecorded, ⟨log₁, hrecalled₁, hruns₁⟩, outcome₂, s₂, log₂, hrecalled₂,
    hruns₂, mt hchanged.mp (by decide), hdecoded (by decide) rfl⟩

end Pipeline

end PictureIndex
