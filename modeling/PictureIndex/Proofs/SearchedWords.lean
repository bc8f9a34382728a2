import Mathlib.Logic.Function.Basic
import PictureIndex.Proofs.MergedWords
import PictureIndex.Proofs.RelaxedStrings
import PictureIndex.Store.Search
/-!
# What a search finds

A search goes through the rows and reads their words by itself; it reads no records.  In a store
that was filled by insertions and removals (`Stocked`) it can read every row, and finds the word in
exactly those whose record has it, be the word as it may (`Stocked.find`).

Looking up a record reads its time too, which a search does not.  The two therefore tell the same
but for records whose time cannot be read, and there is one such instant only: the leap second at
the end of time (`Instant.ofMicros?_micros_eq_none_iff`).

* `search_agrees_with_records`: what a search finds, and that it finds every word of a picture that
  has just been annotated.
-/

namespace PictureIndex

namespace Instant

/-- Whether there is such an instant. -/
def Exists (t : Instant) : Prop := of? t.secs t.nanos = some t

instance (t : Instant) : Decidable t.Exists := inferInstanceAs (Decidable (_ = _))

/-- The only instant that does not come back from its microseconds is the leap second at the end. -/
lemma ofMicros?_micros_eq_none_iff {t : Instant} (ht : t.Exists) :
    ofMicros? t.micros = none ↔ t.secs = lastSecond ∧ 1000000000 ≤ t.nanos := by
  have hrange : firstSecond ≤ t.secs ∧ t.secs ≤ lastSecond ∧ t.nanos < 2000000000 := by
    rw [Exists, of?] at ht
    split at ht
    · omega
    · cases ht
  have hsecs : t.micros / 1000000 = t.secs + (t.nanos / 1000000000 : Nat) := by
    rw [micros]
    omega
  have hnanos : (t.micros % 1000000).toNat * 1000 < 1000000000 := by omega
  rw [ofMicros?, of?, hsecs, ite_eq_right_iff]
  simp only [hnanos, true_or, and_true, reduceCtorEq, imp_false]
  omega

end Instant

namespace Store

variable {s s' : Store} {m : String → Option Record} {p : Path} {r : Record} {word : String}

/-! ## Stores filled by insertions and removals -/

/-- Whether a store comes of inserting records into a new one and removing them, and which record
was inserted last at the text of a path, unless it was removed later. -/
inductive Stocked : Store → (String → Option Record) → Prop
  | new : Stocked new fun _ => none
  | insert {s s' : Store} {m : String → Option Record} {r : Record} (h : Stocked s m)
    (hinsert : s.insert r = .ok s') : Stocked s' (Function.update m r.path.text (some r))
  | remove {s s' : Store} {m : String → Option Record} {p : Path} (h : Stocked s m)
    (hremove : s.remove p = .ok s') : Stocked s' (Function.update m p.text none)

/-- What is said of a record whose time cannot be read. -/
def timeless (path : String) (r : Record) : Error :=
  .general ("invalid timestamp for " ++ path ++ ": " ++ toString r.lastModified.micros)

/-- A row gives back all words of the record it was made from, if it gives back a record. -/
lemma readRow_written (path : String) (r : Record) :
    readRow path (rowOf r) = match Instant.ofMicros? r.lastModified.micros with
      | none => .error (timeless path r)
      | some time => .ok ⟨Path.ofText path, time, UInt64.ofNat (signedSize r.sizeBytes).toNat,
          r.annotations⟩ := by
  have hwords : readWords? (rowOf r).annotations = some r.annotations :=
    readWords?_writeStrings r.annotations
  have hmicros : (rowOf r).micros = r.lastModified.micros := rfl
  rw [readRow, hwords, hmicros]
  cases Instant.ofMicros? r.lastModified.micros <;> rfl

namespace Stocked

/-- The rows are those of the records. -/
lemma rows (h : Stocked s m) :
    ∃ t, s.pictures = some t ∧ ∀ path, t.find? path = (m path).map rowOf := by
  induction h with
  | new => exact ⟨Table.empty, rfl, fun _ => rfl⟩
  | insert _ hinsert ih =>
    obtain ⟨t, ht, hfind⟩ := ih
    obtain ⟨t', ht', rfl⟩ := exists_of_insert hinsert
    obtain rfl := Option.some.inj (ht.symm.trans ht')
    refine ⟨_, rfl, fun path => ?_⟩
    rw [Table.find?_insert, Function.update_apply, hfind]
    split <;> rfl
  | remove _ hremove ih =>
    obtain ⟨t, ht, hfind⟩ := ih
    obtain ⟨t', ht', rfl⟩ := exists_of_remove hremove
    obtain rfl := Option.some.inj (ht.symm.trans ht')
    refine ⟨_, rfl, fun path => ?_⟩
    rw [Table.find?_erase, Function.update_apply, hfind]
    split <;> rfl

/-- A look-up gives the words of the record, unless the time of the record cannot be read. -/
lemma get_cases (h : Stocked s m) (p : Path) :
    (m p.text = none ∧ s.get p = .ok none) ∨
    (∃ r r', m p.text = some r ∧ s.get p = .ok (some r') ∧ r'.annotations = r.annotations ∧
      Instant.ofMicros? r.lastModified.micros ≠ none) ∨
    ∃ r, m p.text = some r ∧ s.get p = .error (timeless p.text r) ∧
      Instant.ofMicros? r.lastModified.micros = none := by
  obtain ⟨t, ht, hfind⟩ := h.rows
  rw [get_eq ht, hfind]
  cases hr : m p.text with
  | none => exact .inl ⟨rfl, rfl⟩
  | some r =>
    have hread := readRow_written p.text r
    right
    cases htime : Instant.ofMicros? r.lastModified.micros with
    | none =>
      rw [htime] at hread
      exact .inr ⟨r, rfl, congrArg (Except.map some) hread, htime⟩
    | some time =>
      rw [htime] at hread
      exact .inl ⟨r, _, rfl, congrArg (Except.map some) hread, rfl, by simp [htime]⟩

end Stocked

/-! ## Searching -/

/-- A search that gets to the last row finds the rows with the word, in their order. -/
lemma matching_eq {rows : List (String × Row)} {found : Row → Bool}
    (h : ∀ x ∈ rows, (Relaxed.parse? x.2.annotations).bind (·.find? word) = some (found x.2)) :
    matching word rows = (rows.filter (found ·.2)).map (·.1) := by
  induction rows with
  | nil => rfl
  | cons x rows ih =>
    obtain ⟨hx, hrows⟩ := List.forall_mem_cons.mp h
    obtain ⟨key, row⟩ := x
    rw [matching, hx, List.filter_cons, ih hrows]
    cases found row <;> rfl

/-- **A search finds the records with the word.** -/
theorem Stocked.find (h : Stocked s m) (word : String) :
    ∃ paths, s.find word = .ok paths ∧ paths.Pairwise Text.Before ∧
      ∀ path, path ∈ paths ↔ ∃ r, m path = some r ∧ Text.lower word ∈ r.annotations.keys := by
  obtain ⟨t, ht, hfind⟩ := h.rows
  let found (row : Row) : Bool :=
    (Relaxed.parse? row.annotations).bind (·.find? (Text.lower word)) = some true
  have hfound (r : Record) : found (rowOf r) = decide (Text.lower word ∈ r.annotations.keys) := by
    simp only [found, rowOf, Relaxed.find?_writeStrings, Option.some.injEq, decide_eq_true_eq]
  have hrow {path : String} {row : Row} (hmem : (path, row) ∈ t.entries) :
      ∃ r, m path = some r ∧ row = rowOf r := by
    have hrow := hfind path
    rw [Table.mem_entries.mp hmem] at hrow
    obtain ⟨r, hr, hr'⟩ := Option.map_eq_some_iff.mp hrow.symm
    exact ⟨r, hr, hr'.symm⟩
  have hsearch : s.find word = .ok ((t.entries.filter (found ·.2)).map (·.1)) := by
    have hmatching : matching (Text.lower word) t.entries =
        (t.entries.filter (found ·.2)).map (·.1) := by
      refine matching_eq fun ⟨path, row⟩ hmem => ?_
      obtain ⟨r, -, rfl⟩ := hrow hmem
      rw [hfound]
      exact Relaxed.find?_writeStrings r.annotations.keys (Text.lower word)
    simp [Store.find, pictureTable, ht, bind, Except.bind, pure, Except.pure, hmatching]
  refine ⟨_, hsearch, t.keys_ascending.sublist (List.filter_sublist.map _), fun path => ?_⟩
  simp only [List.mem_map, List.mem_filter]
  constructor
  · rintro ⟨⟨path, row⟩, ⟨hmem, hword⟩, rfl⟩
    obtain ⟨r, hr, rfl⟩ := hrow hmem
    rw [hfound, decide_eq_true_eq] at hword
    exact ⟨r, hr, hword⟩
  · rintro ⟨r, hr, hword⟩
    refine ⟨(path, rowOf r), ⟨Table.mem_entries.mpr (by rw [hfind, hr]; rfl), ?_⟩, rfl⟩
    rw [hfound, decide_eq_true_eq]
    exact hword

end Store

namespace Pipeline

open Plan Store

variable {e : Pipeline} {files : FileTree} {p : Path} {bitmap : Bitmap} {exhausted : Bool}
  {n : Nat} {s s' : Store} {m : String → Option Record} {log new : List Exchange} {v : String}

/-! ## Words that were reported -/

/-- Whether a word occurs in a line of text that was recognised, or in the name of a label that
counts and that the classifier has reported without an error. -/
inductive Reported (e : Pipeline) (log : List Exchange) (v : String) : Prop
  /-- In a line of text. -/
  | line (bitmap : Bitmap) (a : TextAnswer) (ha : ⟨.recognise bitmap, .ok a⟩ ∈ log)
    (hv : ∃ l ∈ a.lines, v ∈ Text.words l)
  /-- In the name of a label. -/
  | label (q : Path) (a : LabelAnswer) (ha : ⟨.classify q, .ok a⟩ ∈ log) (hok : a.status = .ok)
    (hv : ∃ l ∈ a.labels, l.counts e.threshold = true ∧ v ∈ Text.words l.name)

lemma exists_of_asked_cons {r : Request} {rs : List Request} (h : asked log = r :: rs) :
    ∃ answer rest, log = ⟨r, answer⟩ :: rest ∧ asked rest = rs := by
  obtain ⟨⟨_, answer⟩, rest, rfl, rfl, hrest⟩ := List.map_eq_cons_iff.mp h
  exact ⟨answer, rest, rfl, hrest⟩

/-- What was asked and answered if a record was written: first the preparations, then what was asked
of the backends, and the record in the end. -/
lemma log_of_annotated
    (hruns : Runs (Store.heard files) (s, []) (e.annotate exhausted p) (.annotated n) (s', log)) :
    ∃ info type recorded bitmap new r, asked new = e.consults p bitmap ∧
      log = preparations p info type recorded bitmap ++ new ++ [⟨.insert r, .ok ()⟩] := by
  obtain ⟨info, time, recorded, bitmap, -, -, hdescribe⟩ | ⟨-, hno⟩ := describes_of_annotate hruns
  swap
  · exact absurd rfl (hno n)
  cases heard_of_describe hdescribe with
  | annotated hnew => exact ⟨info, _, recorded, bitmap, _, _, hnew, rfl⟩

/-- The backends are asked once each, so that all they have answered is one text and one list of
labels. -/
lemma exists_answers (hb : e.backends.isEmpty = false) (hnew : asked new = e.consults p bitmap) :
    ∃ ocr labels, ∀ x ∈ new, fits ocr labels x.request x.answer := by
  rw [consults] at hnew
  obtain hstages | hstages | hstages := stages_cases hb <;> rw [hstages] at hnew <;>
    simp only [List.filterMap_cons, List.filterMap_nil, Stage.request?] at hnew
  · obtain ⟨ocr, rest, rfl, hrest⟩ := exists_of_asked_cons hnew
    obtain rfl := List.map_eq_nil_iff.mp hrest
    exact ⟨ocr, .error (.classifier ""), by simp [fits]⟩
  · obtain ⟨labels, rest, rfl, hrest⟩ := exists_of_asked_cons hnew
    obtain rfl := List.map_eq_nil_iff.mp hrest
    exact ⟨.error (.ocr ""), labels, by simp [fits]⟩
  · obtain ⟨ocr, rest, rfl, hrest⟩ := exists_of_asked_cons hnew
    obtain ⟨labels, last, rfl, hlast⟩ := exists_of_asked_cons hrest
    obtain rfl := List.map_eq_nil_iff.mp hlast
    exact ⟨ocr, labels, by simp [fits]⟩

/-- Where a record was written, the answers can be told apart by what was asked. -/
lemma consulted_of_annotated (hb : e.backends.isEmpty = false)
    (hruns : Runs (Store.heard files) (s, []) (e.annotate exhausted p) (.annotated n) (s', log)) :
    ∃ ocr labels, Consulted ocr labels log := by
  obtain ⟨info, type, recorded, bitmap, new, r, hnew, rfl⟩ := log_of_annotated hruns
  obtain ⟨ocr, labels, hfits⟩ := exists_answers hb hnew
  have hprepared : ∀ x ∈ preparations p info type recorded bitmap,
      fits ocr labels x.request x.answer := by
    simp only [preparations, List.forall_mem_cons, fits, List.not_mem_nil, false_implies,
      implies_true, and_true, true_and]
    exact Option.some_ne_none bitmap
  refine ⟨ocr, labels, ⟨p, bitmap, by simp [preparations]⟩, ?_⟩
  simp only [List.forall_mem_append, List.forall_mem_singleton]
  exact ⟨⟨hprepared, hfits⟩, rfl⟩

/-- The stages of the backends are carried out for those in use only. -/
lemma backends_of_mem_stages : (.ocr ∈ e.stages → e.backends.ocr = true) ∧
    (.classifier ∈ e.stages → e.backends.contentClassifier = true) := by
  rw [stages, Backends.isEmpty, Backends.kinds]
  cases e.backends.ocr <;> cases e.backends.contentClassifier <;> cases e.fallback <;> simp

/-- The backends that have been asked are in use. -/
lemma backends_of_annotated
    (hruns : Runs (Store.heard files) (s, []) (e.annotate exhausted p) (.annotated n) (s', log)) :
    (∀ b, .recognise b ∈ asked log → e.backends.ocr = true) ∧
      ∀ q, .classify q ∈ asked log → e.backends.contentClassifier = true := by
  obtain ⟨info, type, recorded, bitmap, new, r, hnew, rfl⟩ := log_of_annotated hruns
  simp only [asked_append, hnew, preparations, asked_cons, asked_nil, List.mem_append,
    List.mem_cons, List.not_mem_nil, reduceCtorEq, or_false, false_or]
  constructor
  · intro b hb
    obtain ⟨stage, hmem, hstage⟩ := List.mem_filterMap.mp hb
    cases stage with
    | ocr => exact backends_of_mem_stages.1 hmem
    | classifier | fileName => cases hstage
  · intro q hq
    obtain ⟨stage, hmem, hstage⟩ := List.mem_filterMap.mp hq
    cases stage with
    | classifier => exact backends_of_mem_stages.2 hmem
    | ocr | fileName => cases hstage

/-- **A reported word that passes the filter is recorded** in lower case. -/
lemma Reported.recorded (h : e.Reported log v) (hv : e.filter.accepts v = true)
    (hruns : Runs (Store.heard files) (s, []) (e.annotate exhausted p) (.annotated n) (s', log)) :
    ∃ r, r.path = p ∧ s.insert r = .ok s' ∧ Text.lower v ∈ r.annotations.keys := by
  obtain ⟨huse, huse'⟩ := backends_of_annotated hruns
  have hb : e.backends.isEmpty = false := by
    cases h with
    | line b a ha => simp [Backends.isEmpty, huse b (List.mem_map_of_mem ha)]
    | label q a ha => simp [Backends.isEmpty, huse' q (List.mem_map_of_mem ha)]
  have hextract {text : String} (hword : v ∈ Text.words text) :
      Text.lower v ∈ e.filter.extract text :=
    List.mem_map_of_mem (List.mem_filter.mpr ⟨hword, hv⟩)
  obtain ⟨ocr, labels, hlog⟩ := consulted_of_annotated hb hruns
  have hcontributes : e.Contributes ocr labels (Text.lower v) := by
    cases h with
    | line b a ha hword =>
      obtain ⟨l, hl, hword⟩ := hword
      have hanswer : Except.ok a = ocr := hlog.fits _ ha
      exact .line (huse b (List.mem_map_of_mem ha)) a hanswer.symm ⟨l, hl, hextract hword⟩
    | label q a ha hok hword =>
      obtain ⟨l, hl, hcounts, hword⟩ := hword
      have hanswer : Except.ok a = labels := hlog.fits _ ha
      exact .label (huse' q (List.mem_map_of_mem ha)) a hanswer.symm hok
        ⟨l, hl, hcounts, hextract hword⟩
  obtain ⟨info, time, -, -, ⟨-, -, hinsert, -⟩ | ⟨-, houtcome, -⟩⟩ :=
    annotate_of_consulted hb hruns hlog
  · exact ⟨_, rfl, hinsert, (mem_wordsOf_iff hb).mpr hcontributes⟩
  · cases houtcome

/-- **Search agrees with the records.**  Take a store filled by inserting and removing records with
any words.

* A search for any word ends and gives paths in strictly ascending order of their bytes: those whose
  record, as it was inserted last, has the word in lower case.
* Where looking up a record gives an answer, it has the same words, so that these are also the paths
  whose record, as it is looked up, has the word in lower case.  Looking it up fails exactly where
  the time of the record cannot be read, with an error that says so; if this is an instant at all,
  it is in a leap second at the very end of time.
* Right after the picture at a path has been annotated, a search finds the path by every word that
  passes the filter and occurs in a line of text that was recognised, or in a label that counts and
  was reported without an error: by the word as it is written there, and in any other letter case.
-/
theorem search_agrees_with_records (h : s.Stocked m) :
    (∀ word, ∃ paths, s.find word = .ok paths ∧ paths.Pairwise Text.Before ∧
      ∀ p : Path,
        (p.text ∈ paths ↔
          ∃ r, m p.text = some r ∧ Text.lower word ∈ r.annotations.keys) ∧
        ∀ answer, s.get p = .ok answer →
          (p.text ∈ paths ↔ ∃ r, answer = some r ∧ Text.lower word ∈ r.annotations.keys)) ∧
    (∀ (p : Path) (error : Error), s.get p = .error error ↔
      ∃ r, m p.text = some r ∧ Instant.ofMicros? r.lastModified.micros = none ∧
        error = timeless p.text r) ∧
    (∀ (p : Path) (r : Record), m p.text = some r → r.lastModified.Exists →
      ((∃ error, s.get p = .error error) ↔
        r.lastModified.secs = Instant.lastSecond ∧ 1000000000 ≤ r.lastModified.nanos)) ∧
    ∀ (e : Pipeline) (files : FileTree) (p : Path) (exhausted : Bool) (n : Nat) (s' : Store)
      (log : List Exchange), p.IsText →
      Runs (Store.heard files) (s, []) (e.annotate exhausted p) (.annotated n) (s', log) →
      ∀ v, e.filter.accepts v = true → e.Reported log v →
        ∀ word, Text.lower word = Text.lower v →
          ∃ paths, s'.find word = .ok paths ∧ p ∈ paths.map Path.ofText := by
  have hunread (p : Path) (error : Error) : s.get p = .error error ↔
      ∃ r, m p.text = some r ∧ Instant.ofMicros? r.lastModified.micros = none ∧
        error = timeless p.text r := by
    obtain ⟨hnone, hget⟩ | ⟨r, r', hr, hget, -, htime⟩ | ⟨r, hr, hget, htime⟩ := h.get_cases p
    · simp [hnone, hget]
    · simp [hr, hget, htime]
    · simp [hr, hget, htime, eq_comm]
  refine ⟨fun word => ?_, hunread, fun p r hr hexists => ?_, ?_⟩
  · obtain ⟨paths, hfind, hascending, hmem⟩ := h.find word
    refine ⟨paths, hfind, hascending, fun p => ⟨hmem p.text, fun answer hget => ?_⟩⟩
    rw [hmem]
    obtain ⟨hnone, hget'⟩ | ⟨r, r', hr, hget', hwords, -⟩ | ⟨r, -, hget', -⟩ := h.get_cases p
    · obtain rfl := Except.ok.inj (hget'.symm.trans hget)
      simp [hnone]
    · obtain rfl := Except.ok.inj (hget'.symm.trans hget)
      simp [hr, hwords]
    · cases hget'.symm.trans hget
  · rw [← Instant.ofMicros?_micros_eq_none_iff hexists]
    simp only [hunread, hr, Option.some.injEq, exists_eq_left', exists_and_left, exists_eq,
      and_true]
  · intro e files p exhausted n s' log hp hruns v hv hreported word hword
    obtain ⟨r, rfl, hinsert, hrecorded⟩ := hreported.recorded hv hruns
    obtain ⟨paths, hfind, -, hmem⟩ := (h.insert hinsert).find word
    refine ⟨paths, hfind, List.mem_map.mpr ⟨r.path.text, (hmem _).mpr ⟨r, ?_, ?_⟩, hp⟩⟩
    · exact Function.update_self ..
    · rw [hword]
      exact hrecorded

/-- A text is found in capitals, and a word with a line break in another record. -/
theorem search_agrees_with_records_in_winter : winterPath.IsText ∧
    ∃ s m n s' log, Stocked s m ∧
      (∃ paths, s.find "Two\nLines" = .ok paths ∧ Store.demanding.path.text ∈ paths) ∧
      Runs (Store.heard winter) (s, []) (readerAndClassifier.annotate false winterPath)
        (.annotated n) (s', log) ∧
      readerAndClassifier.filter.accepts "Snow" = true ∧ readerAndClassifier.Reported log "Snow" ∧
      ∃ paths, s'.find "SNOW" = .ok paths ∧ winterPath ∈ paths.map Path.ofText := by
  obtain ⟨hpicture, htime⟩ := winter_leadsToPicture
  have htext : winterPath.IsText := by decide +kernel
  have haccepts : readerAndClassifier.filter.accepts "Snow" = true := by decide +kernel
  have hcapitals : Text.lower "SNOW" = Text.lower "Snow" := by decide +kernel
  have hbroken : Text.lower "Two\nLines" ∈ Store.demanding.annotations.keys := by decide +kernel
  obtain ⟨s, hinsert⟩ : ∃ s, Store.new.insert Store.demanding = .ok s :=
    ⟨_, Store.insert_eq rfl _⟩
  have hstocked := Stocked.new.insert hinsert
  obtain ⟨hsearch, -, -, hannotated⟩ := search_agrees_with_records hstocked
  have hpictures : s.pictures ≠ none := by
    obtain ⟨t, ht, -⟩ := hstocked.rows
    simp [ht]
  obtain ⟨outcome, s', log, hruns, hlog⟩ := exists_consulted hpicture htime hpictures
    (.ok snowAndIce) (.ok failedLabel)
  obtain ⟨info, time, -, -, ⟨-, rfl, -⟩ | ⟨hfails, -⟩⟩ := annotate_of_consulted rfl hruns hlog
  swap
  · exact absurd (.inl ⟨rfl, _, rfl⟩) hfails
  have hreported : readerAndClassifier.Reported log "Snow" := by
    obtain ⟨_, _, _, bitmap, new, _, hnew, rfl⟩ := log_of_annotated hruns
    obtain ⟨answer, rest, rfl, -⟩ := exists_of_asked_cons hnew
    obtain rfl : answer = .ok snowAndIce := hlog.fits ⟨.recognise bitmap, answer⟩ (by simp)
    exact .line bitmap snowAndIce (by simp) ⟨"Snow", by decide, by decide +kernel⟩
  obtain ⟨paths, hfind, -, hpaths⟩ := hsearch "Two\nLines"
  refine ⟨htext, _, _, _, s', log, hstocked, ⟨paths, hfind, ?_⟩, hruns, haccepts, hreported, ?_⟩
  · exact (hpaths Store.demanding.path).1.mpr ⟨_, Function.update_self .., hbroken⟩
  · exact hannotated _ _ _ _ _ _ _ htext hruns "Snow" haccepts hreported "SNOW" hcapitals

/-- A record from the leap second at the end of time. -/
def fromTheLastLeapSecond : Record :=
  ⟨.ofText "/a.png", ⟨Instant.lastSecond, 1500000000⟩, 16, .ofList ["cat"]⟩

/-- A record from the leap second at the end of time is found and cannot be looked up, so that a
search does not always give exactly the paths whose record, as it is looked up, has the word.  And a
word may pass the filter but not in all letter cases: a Kelvin sign is a capital k and no ASCII
letter. -/
theorem search_finds_unreadable_record :
    (∃ s m, Stocked s m ∧ (∀ path r, m path = some r → r.lastModified.Exists) ∧
      s.find "cat" = .ok ["/a.png"] ∧
      s.get fromTheLastLeapSecond.path =
        .error (.general "invalid timestamp for /a.png: 8210266876800500000")) ∧
    (¬ ∀ s m, Stocked s m → ∀ word, ∃ paths, s.find word = .ok paths ∧ ∀ p : Path,
      (p.text ∈ paths ↔ ∃ r, s.get p = .ok (some r) ∧ Text.lower word ∈ r.annotations.keys)) ∧
    ∃ f : WordFilter, f.accepts "Kit" = true ∧ Text.lower "\u212Ait" = Text.lower "Kit" ∧
      Text.lower "Kit" ∉ f.extract "\u212Ait" := by
  obtain ⟨s, hinsert⟩ : ∃ s, Store.new.insert fromTheLastLeapSecond = .ok s :=
    ⟨_, Store.insert_eq rfl _⟩
  have hstocked := Stocked.new.insert hinsert
  have hexists : fromTheLastLeapSecond.lastModified.Exists := by decide
  have hfind : s.find "cat" = .ok ["/a.png"] := by
    obtain rfl := Except.ok.inj hinsert
    decide +kernel
  have htime : Instant.ofMicros? fromTheLastLeapSecond.lastModified.micros = none := by decide
  have herror : Store.timeless fromTheLastLeapSecond.path.text fromTheLastLeapSecond =
      .general "invalid timestamp for /a.png: 8210266876800500000" := by
    decide +kernel
  have hget : s.get fromTheLastLeapSecond.path =
      .error (.general "invalid timestamp for /a.png: 8210266876800500000") := by
    obtain ⟨t, -, rfl⟩ := Store.exists_of_insert hinsert
    rw [Store.get_eq rfl, Table.find?_insert, if_pos rfl]
    simp only [Store.readRow_written, htime, herror]
    rfl
  refine ⟨⟨s, _, hstocked, fun path r hr => ?_, hfind, hget⟩, fun hclaim => ?_, ?_⟩
  · rw [Function.update_apply] at hr
    split at hr
    · rwa [← Option.some.inj hr]
    · cases hr
  · obtain ⟨paths, hpaths, hmem⟩ := hclaim s _ hstocked "cat"
    obtain rfl := Except.ok.inj (hfind.symm.trans hpaths)
    obtain ⟨r, hr, -⟩ := (hmem fromTheLastLeapSecond.path).mp (by decide +kernel)
    cases hget.symm.trans hr
  · exact ⟨⟨[]⟩, by decide +kernel⟩

end Pipeline

end PictureIndex
