import PictureIndex.Proofs.AnnotationOutcomes
import PictureIndex.Proofs.Findings
import PictureIndex.Proofs.FullPass
import PictureIndex.Proofs.Vocabulary
/-!
# The words of all stages

The stages of a picture add their words to one set.  A stage that fails leaves the set as it is, so
that at the end it holds the words of the stages that have succeeded and no others
(`Pipeline.Contributes`), and a record is written if there was one.

The set knows nothing of the order or the number of the texts that the words come from, nor where
one text ends and the next begins: texts may be put in another order, repeated, and broken at any
blank (`Relaid`).

* `merged_words_are_union`: whether a picture gets a record, which words are in it, and that it does
  not depend on how the texts were laid out.
-/

namespace PictureIndex

/-! ## Layout -/

/-- Whether one list of texts comes from another when texts are put in another order or repeated,
and when they are broken or joined at blanks. -/
inductive Relaid : List String → List String → Prop
  | shuffled {ts us : List String} (h : ∀ t, t ∈ ts ↔ t ∈ us) : Relaid ts us
  | broken (before after : List String) (u v : String) {c : Char} (hc : Text.isBlank c = true) :
    Relaid (before ++ (u ++ String.singleton c ++ v) :: after) (before ++ u :: v :: after)
  | symm {ts us : List String} (h : Relaid ts us) : Relaid us ts
  | trans {ts us vs : List String} (h : Relaid ts us) (h' : Relaid us vs) : Relaid ts vs

/-- The layout does not matter to the words. -/
lemma Relaid.exists_extract {ts us : List String} (h : Relaid ts us) (f : WordFilter) (w : String) :
    (∃ t ∈ ts, w ∈ f.extract t) ↔ ∃ u ∈ us, w ∈ f.extract u := by
  induction h with
  | shuffled h => simp only [h]
  | broken before after u v hc =>
    simp only [List.mem_append, or_and_right, exists_or, List.exists_mem_cons_iff,
      f.extract_spaced (Text.isSpace_singleton hc), or_assoc]
  | symm _ ih => exact ih.symm
  | trans _ _ ih ih' => exact ih.trans ih'

/-- The names of the labels that count. -/
def LabelAnswer.names (a : LabelAnswer) (threshold : Single) : List String :=
  (a.labels.filter (·.counts threshold)).map (·.name)

lemma LabelAnswer.exists_names (a : LabelAnswer) {threshold : Single} {f : WordFilter}
    {w : String} : (∃ n ∈ a.names threshold, w ∈ f.extract n) ↔
      ∃ l ∈ a.labels, l.counts threshold = true ∧ w ∈ f.extract l.name := by
  simp [names, and_assoc]

/-- Whether two answers of the text recognition are both errors, or differ in layout at most. -/
def TextAnswer.Alike : Except Error TextAnswer → Except Error TextAnswer → Prop
  | .ok a, .ok a' => Relaid a.lines a'.lines
  | .error _, .error _ => True
  | _, _ => False

/-- Whether two answers of the classifier are both errors, or differ in layout at most. -/
def LabelAnswer.Alike (threshold : Single) :
    Except Error LabelAnswer → Except Error LabelAnswer → Prop
  | .ok a, .ok a' => a.status = a'.status ∧ Relaid (a.names threshold) (a'.names threshold)
  | .error _, .error _ => True
  | _, _ => False

lemma TextAnswer.Alike.symm {a a' : Except Error TextAnswer} (h : Alike a a') : Alike a' a := by
  cases a <;> cases a'
  · trivial
  · exact h.elim
  · exact h.elim
  · exact Relaid.symm h

lemma LabelAnswer.Alike.symm {threshold : Single} {a a' : Except Error LabelAnswer}
    (h : Alike threshold a a') : Alike threshold a' a := by
  cases a <;> cases a'
  · trivial
  · exact h.elim
  · exact h.elim
  · exact ⟨h.1.symm, h.2.symm⟩

/-! ## What was heard, as an answer of the backends -/

namespace Store

variable {files : FileTree} {may : (r : Request) → r.Answer → Prop}

/-- Where nothing is refused, what is heard is served. -/
lemma serves_of_falters {s s' : Store} {r : Request} {answer : r.Answer}
    (h : falters files s r answer s') (haccepted : ¬ r.Refused answer) (hmay : may r answer) :
    serves files may s r answer s' := by
  have hserves := h.resolve_right fun hrefused => haccepted hrefused.1
  cases r with
  | decode p => exact ⟨hmay, hserves.2⟩
  | recognise b => exact ⟨hmay, hserves.2⟩
  | classify p => exact ⟨hmay, hserves.2⟩
  | _ => exact hserves

lemma reaches_of_heard {α : Type} {plan plan' : Plan α} {x y : Store × List Exchange}
    (hreach : Plan.Reaches (heard files) x plan y plan') {new : List Exchange}
    (hy : y.2 = x.2 ++ new)
    (hnew : ∀ z ∈ new, ¬ z.request.Refused z.answer ∧ may z.request z.answer) :
    Plan.Reaches (serves files may) x.1 plan y.1 plan' := by
  induction hreach generalizing new with
  | refl => exact .refl
  | @step y z r next answer hreach hanswer ih =>
    obtain ⟨before, hbefore⟩ := hreach.log_prefix
    obtain rfl : before ++ [⟨r, answer⟩] = new := by
      rw [hanswer.2, ← hbefore, List.append_assoc] at hy
      exact List.append_cancel_left hy
    have hlast := hnew ⟨r, answer⟩ (List.mem_append_right _ List.mem_cons_self)
    exact .step (ih hbefore.symm fun z hz => hnew z (List.mem_append_left _ hz))
      (serves_of_falters hanswer.1 hlast.1 hlast.2)

end Store

namespace Pipeline

open Plan

/-- Whether an answer is given where decoding succeeds, the store refuses no record and the backends
give these answers. -/
def fits (ocr : Except Error TextAnswer) (labels : Except Error LabelAnswer) :
    (r : Request) → r.Answer → Prop
  | .decode _, a => a ≠ none
  | .recognise _, a => a = ocr
  | .classify _, a => a = labels
  | .insert _, a => a = .ok ()
  | _, _ => True

/-- Whether a picture was decoded, and everything was answered in this way. -/
structure Consulted (ocr : Except Error TextAnswer) (labels : Except Error LabelAnswer)
    (log : List Exchange) : Prop where
  /-- A picture was decoded. -/
  decoded : ∃ p bitmap, ⟨.decode p, some bitmap⟩ ∈ log
  /-- So far all answers fit. -/
  fits : ∀ x ∈ log, fits ocr labels x.request x.answer

/-- Whether a stage in use succeeds, if the backends give these answers. -/
def Succeeds (e : Pipeline) (ocr : Except Error TextAnswer) (labels : Except Error LabelAnswer) :
    Prop :=
  (e.backends.ocr = true ∧ ∃ a, ocr = .ok a) ∨
    (e.backends.contentClassifier = true ∧ ∃ a, labels = .ok a ∧ a.status = .ok)

/-- Whether a stage in use succeeds and finds a word, if the backends give these answers. -/
inductive Contributes (e : Pipeline) (ocr : Except Error TextAnswer)
    (labels : Except Error LabelAnswer) (w : String) : Prop
  /-- In a line of text. -/
  | line (hocr : e.backends.ocr = true) (a : TextAnswer) (ha : ocr = .ok a)
    (hw : ∃ l ∈ a.lines, w ∈ e.filter.extract l)
  /-- In the name of a label that counts. -/
  | label (hclassifier : e.backends.contentClassifier = true) (a : LabelAnswer)
    (ha : labels = .ok a) (hok : a.status = .ok)
    (hw : ∃ l ∈ a.labels, l.counts e.threshold = true ∧ w ∈ e.filter.extract l.name)

variable {e : Pipeline} {ocr ocr' : Except Error TextAnswer}
  {labels labels' : Except Error LabelAnswer} {R : Readings} {files : FileTree} {p : Path}
  {bitmap : Bitmap} {time : Instant} {size : Nat} {exhausted : Bool} {a b : Store}
  {log log' new : List Exchange} {outcome : Outcome} {w : String}

/-! ## Stages that succeed, and their words -/

/-- There is a stage for each backend in use. -/
lemma stages_cases (hb : e.backends.isEmpty = false) :
    e.stages = [.ocr] ∨ e.stages = [.classifier] ∨ e.stages = [.ocr, .classifier] := by
  rw [stages, hb, Backends.kinds]
  rw [Backends.isEmpty] at hb
  cases hocr : e.backends.ocr <;> cases hclassifier : e.backends.contentClassifier <;> simp_all

lemma mem_stages (hb : e.backends.isEmpty = false) {stage : Stage} :
    stage ∈ e.stages ↔ (stage = .ocr ∧ e.backends.ocr = true) ∨
      (stage = .classifier ∧ e.backends.contentClassifier = true) := by
  rw [stages, hb, Backends.kinds]
  cases e.backends.ocr <;> cases e.backends.contentClassifier <;> simp

/-- A stage adds to the words of the others those that it has on its own. -/
lemma mem_adds? {stage : Stage} {add : WordSet → WordSet} (hadd : e.adds? R p stage = some add)
    {ws : WordSet} : w ∈ (add ws).keys ↔ w ∈ (add Table.empty).keys ∨ w ∈ ws.keys := by
  have hempty : w ∉ (Table.empty : WordSet).keys := List.not_mem_nil
  cases stage with
  | ocr =>
    rw [adds?] at hadd
    split at hadd
    · obtain rfl := Option.some.inj hadd
      simp only [TextAnswer.addWords, mem_foldl_extend, hempty, or_false]
    · cases hadd
  | classifier =>
    rw [adds?] at hadd
    split at hadd
    · split at hadd
      · rename_i hok
        obtain rfl := Option.some.inj hadd
        simp only [LabelAnswer.addWords, hok, mem_foldl_extend, hempty, or_false]
      · cases hadd
    · cases hadd
  | fileName =>
    obtain rfl := Option.some.inj hadd
    simp only [WordSet.mem_addAll, hempty, or_false]

/-- The words found are those of the stages that succeed. -/
lemma mem_wordsOf : w ∈ (e.wordsOf R p).keys ↔
    ∃ stage ∈ e.stages, ∃ add, e.adds? R p stage = some add ∧ w ∈ (add Table.empty).keys := by
  have hfold (stages : List Stage) (ws : WordSet) :
      w ∈ ((stages.filterMap (e.adds? R p)).foldl (fun ws add => add ws) ws).keys ↔
        (∃ stage ∈ stages, ∃ add, e.adds? R p stage = some add ∧ w ∈ (add Table.empty).keys) ∨
          w ∈ ws.keys := by
    induction stages generalizing ws with
    | nil => simp
    | cons stage rest ih =>
      cases hadd : e.adds? R p stage with
      | none => simp [List.filterMap_cons_none hadd, ih, hadd]
      | some add =>
        rw [List.filterMap_cons_some hadd, List.foldl_cons, ih, mem_adds? hadd]
        simp only [List.exists_mem_cons_iff, hadd, Option.some.injEq, exists_eq_left']
        rw [or_assoc, or_left_comm]
  rw [wordsOf, hfold]
  exact or_iff_left List.not_mem_nil

/-- What the backends answer, whatever the path. -/
def readings (ocr : Except Error TextAnswer) (labels : Except Error LabelAnswer) : Readings :=
  ⟨fun _ => ocr, fun _ => labels⟩

lemma reads_iff (hb : e.backends.isEmpty = false) :
    e.reads (readings ocr labels) p = true ↔ e.Succeeds ocr labels := by
  simp only [reads, List.any_eq_true, mem_stages hb, Succeeds]
  constructor
  · rintro ⟨stage, ⟨rfl, huse⟩ | ⟨rfl, huse⟩, hadds⟩
    · cases ocr with
      | error => cases hadds
      | ok answer => exact .inl ⟨huse, answer, rfl⟩
    · cases labels with
      | error => cases hadds
      | ok answer =>
        refine .inr ⟨huse, answer, rfl, ?_⟩
        by_contra hstatus
        simp [adds?, readings, hstatus] at hadds
  · rintro (⟨huse, answer, rfl⟩ | ⟨huse, answer, rfl, hok⟩)
    · exact ⟨_, .inl ⟨rfl, huse⟩, rfl⟩
    · exact ⟨_, .inr ⟨rfl, huse⟩, by simp [adds?, readings, hok]⟩

lemma mem_wordsOf_iff (hb : e.backends.isEmpty = false) :
    w ∈ (e.wordsOf (readings ocr labels) p).keys ↔ e.Contributes ocr labels w := by
  have hempty : w ∉ (Table.empty : WordSet).keys := List.not_mem_nil
  simp only [mem_wordsOf, mem_stages hb]
  constructor
  · rintro ⟨stage, ⟨rfl, huse⟩ | ⟨rfl, huse⟩, add, hadd, hw⟩
    · cases ocr with
      | error => cases hadd
      | ok answer =>
        obtain rfl := Option.some.inj hadd
        exact .line huse answer rfl ((mem_foldl_extend.mp hw).resolve_right hempty)
    · cases labels with
      | error => cases hadd
      | ok answer =>
        simp only [adds?, readings] at hadd
        split at hadd
        · rename_i hok
          obtain rfl := Option.some.inj hadd
          rw [LabelAnswer.addWords, hok] at hw
          obtain ⟨_, hname, hw⟩ := (mem_foldl_extend.mp hw).resolve_right hempty
          obtain ⟨l, hmem, rfl⟩ := List.mem_map.mp hname
          obtain ⟨hl, hcounts⟩ := List.mem_filter.mp hmem
          exact .label huse answer rfl hok ⟨l, hl, hcounts, hw⟩
        · cases hadd
  · rintro (⟨huse, answer, rfl, hw⟩ | ⟨huse, answer, rfl, hok, l, hl, hcounts, hw⟩)
    · exact ⟨_, .inl ⟨rfl, huse⟩, _, rfl, mem_foldl_extend.mpr (.inl hw)⟩
    · refine ⟨_, .inr ⟨rfl, huse⟩, answer.addWords e.threshold e.filter,
        by simp [adds?, readings, hok], ?_⟩
      rw [LabelAnswer.addWords, hok]
      refine mem_foldl_extend.mpr (.inl ⟨l.name, ?_, hw⟩)
      exact List.mem_map.mpr ⟨l, List.mem_filter.mpr ⟨hl, hcounts⟩, rfl⟩

/-! ## Decoded pictures -/

/-- What has been asked and answered before a picture is described. -/
def preparations (p : Path) (info : FileInfo) (type : PictureType)
    (recorded : Except Error (Option Instant)) (bitmap : Bitmap) : List Exchange :=
  [⟨.info p, some info⟩, ⟨.sniff p, type⟩, ⟨.recordedTime p, recorded⟩, ⟨.decode p, some bitmap⟩,
    ⟨.arm, ()⟩]

/-- An annotation that has decoded a picture describes it, and no other one writes a record. -/
lemma describes_of_annotate
    (hruns : Runs (Store.heard files) (a, []) (e.annotate exhausted p) outcome (b, log)) :
    (∃ info time recorded bitmap, files.info? p = some info ∧ info.modified = some time ∧
      Runs (Store.heard files) (a, preparations p info (files.pictureType p) recorded bitmap)
        (e.describe p bitmap time info.sizeBytes) outcome (b, log)) ∨
    ((∀ q bitmap, ⟨.decode q, some bitmap⟩ ∉ log) ∧ ∀ n, outcome ≠ .annotated n) := by
  have hundecoded (h : ∀ q, .decode q ∉ asked log) (q : Path) (bitmap : Bitmap) :
      ⟨.decode q, some bitmap⟩ ∉ log :=
    fun hmem => h q (List.mem_map_of_mem hmem)
  obtain ⟨-, checks, hreject, hchecks⟩ | ⟨-, info, time, hinfo, hmodified, hrefresh⟩ :=
    heard_of_annotate hruns
  · obtain ⟨rfl, answer, rfl, -⟩ := heard_of_reject hreject
    refine .inr ⟨hundecoded fun q => ?_, by simp⟩
    rcases hchecks with hchecks | hchecks <;> simp [hchecks]
  obtain ⟨recorded, ⟨-, rfl, rfl, rfl⟩ | ⟨-, -, rfl, rfl, rfl⟩ | ⟨-, -, hdevelop⟩⟩ :=
    heard_of_refresh hrefresh
  · exact .inr ⟨hundecoded (by simp), by simp⟩
  · exact .inr ⟨hundecoded (by simp), by simp⟩
  obtain ⟨rfl, rfl, rfl⟩ | ⟨bitmap, hdescribe⟩ := heard_of_develop hdevelop
  · refine .inr ⟨fun q bitmap hmem => ?_, by simp⟩
    simp only [List.cons_append, List.nil_append, List.mem_cons, List.not_mem_nil,
      or_false] at hmem
    rcases hmem with h | h | h | h <;> cases h
  · exact .inl ⟨info, time, recorded, bitmap, hinfo, hmodified, hdescribe⟩

/-- What the stages make of these answers. -/
lemma stages_of_heard (hb : e.backends.isEmpty = false) {words : WordSet} {n : Nat}
    (hruns : Runs (Store.heard files) (a, log) (e.runStages p bitmap Table.empty e.stages)
      (words, n) (a, log ++ new))
    (hnew : asked new = e.consults p bitmap)
    (hfits : ∀ x ∈ new, fits ocr labels x.request x.answer) :
    words = e.wordsOf (readings ocr labels) p ∧ (n ≠ 0 ↔ e.Succeeds ocr labels) := by
  have hserved : Runs (Store.serves files ((readings ocr labels).may p)) a
      (e.runStages p bitmap Table.empty e.stages) (words, n) a := by
    refine Store.reaches_of_heard hruns rfl fun x hx => ?_
    obtain ⟨request, answer⟩ := x
    have hasked : request ∈ asked new := List.mem_map_of_mem hx
    rw [hnew] at hasked
    obtain ⟨stage, -, hstage⟩ := List.mem_filterMap.mp hasked
    cases stage with
    | ocr | classifier =>
      obtain rfl := Option.some.inj hstage
      exact ⟨id, hfits _ hx⟩
    | fileName => cases hstage
  obtain ⟨hfound, -⟩ := runs_runStages hserved
  obtain ⟨rfl, rfl⟩ := Prod.mk.inj hfound
  exact ⟨rfl, reads_iff_length.symm.trans (reads_iff hb)⟩

/-- **How a decoded picture is described**: with the words of all stages, if one succeeds. -/
lemma describe_of_heard (hb : e.backends.isEmpty = false)
    (hruns : Runs (Store.heard files) (a, log) (e.describe p bitmap time size) outcome (b, log'))
    (hlog : Consulted ocr labels log') :
    let r : Record := ⟨p, time, UInt64.ofNat size, e.wordsOf (readings ocr labels) p⟩
    (e.Succeeds ocr labels ∧ outcome = .annotated r.annotations.size ∧ a.insert r = .ok b ∧
      asked log' = asked log ++ e.consults p bitmap ++ [.insert r]) ∨
    (¬ e.Succeeds ocr labels ∧ outcome = .failed .backends ∧ b = a ∧
      asked log' = asked log ++ e.consults p bitmap) := by
  intro r
  cases heard_of_describe hruns with
  | noBackend hnone =>
    rcases stages_cases hb with hstages | hstages | hstages <;> cases hstages.symm.trans hnone
  | backends hnew hstages =>
    obtain ⟨-, hn⟩ := stages_of_heard hb hstages hnew fun x hx =>
      hlog.fits x (List.mem_append_right _ hx)
    refine .inr ⟨fun hsucceeds => hn.mpr hsucceeds rfl, rfl, rfl, ?_⟩
    rw [asked_append, hnew]
  | refused hnew hn hstages error =>
    have haccepted : Except.error error = Except.ok () :=
      hlog.fits ⟨.insert _, .error error⟩ (List.mem_append_right _ List.mem_cons_self)
    cases haccepted
  | annotated hnew hn hstages hinsert =>
    obtain ⟨rfl, hn'⟩ := stages_of_heard hb hstages hnew fun x hx =>
      hlog.fits x (List.mem_append_left _ (List.mem_append_right _ hx))
    refine .inl ⟨hn'.mp hn, rfl, hinsert, ?_⟩
    rw [asked_append, asked_append, hnew]
    rfl

/-! ## Merged words -/

lemma insert_not_mem_consults (r : Record) : .insert r ∉ e.consults p bitmap := by
  intro h
  obtain ⟨stage, -, hstage⟩ := List.mem_filterMap.mp h
  cases stage <;> cases hstage

end Pipeline

/-! ## Every answer can be given -/

namespace Pipeline

open Plan

variable {e : Pipeline} {ocr ocr' : Except Error TextAnswer}
  {labels labels' : Except Error LabelAnswer} {files : FileTree} {p : Path} {exhausted : Bool}
  {s s' s'' : Store} {log log' : List Exchange} {outcome outcome' : Outcome} {w : String}

lemma exists_fits (files : FileTree) (ocr : Except Error TextAnswer)
    (labels : Except Error LabelAnswer) {s : Store} (hs : s.pictures ≠ none) {r : Request}
    (hr : r ≠ .abort) :
    ∃ answer s', Store.falters files s r answer s' ∧ s'.pictures ≠ none ∧
      fits ocr labels r answer ∧ ((∃ q, r = .recordedTime q) → r.Refused answer) := by
  obtain ⟨t, ht⟩ := Option.ne_none_iff_exists'.mp hs
  cases r with
  | insert record =>
    exact ⟨.ok (), _, Store.falters_insert.mpr (.inl ⟨rfl, Store.insert_eq ht record⟩), by simp,
      rfl, by simp⟩
  | remove q =>
    exact ⟨.ok (), _, Store.falters_remove.mpr (.inl ⟨rfl, Store.remove_eq ht q⟩), by simp,
      trivial, by simp⟩
  | decode q =>
    exact ⟨some ⟨0, 0⟩, s, .inl ⟨trivial, rfl⟩, hs, Option.some_ne_none _, by simp⟩
  | recognise bitmap => exact ⟨ocr, s, .inl ⟨trivial, rfl⟩, hs, rfl, by simp⟩
  | classify q => exact ⟨labels, s, .inl ⟨trivial, rfl⟩, hs, rfl, by simp⟩
  | recordedTime q =>
    exact ⟨.error (.general ""), s, .inr ⟨⟨_, rfl⟩, rfl⟩, hs, trivial, fun _ => ⟨_, rfl⟩⟩
  | arm => exact ⟨(), s, .inl rfl, hs, trivial, by simp⟩
  | abort => exact absurd rfl hr
  | _ => exact ⟨_, s, .inl ⟨rfl, rfl⟩, hs, trivial, by simp⟩

/-- The picture at a path can be decoded and described with any answers of the backends. -/
lemma exists_consulted (hpicture : files.LeadsToPicture e.maxSize p)
    (htime : ∀ info, files.info? p = some info → info.modified.isSome) (hs : s.pictures ≠ none)
    (ocr : Except Error TextAnswer) (labels : Except Error LabelAnswer) :
    ∃ outcome s' log, Runs (Store.heard files) (s, []) (e.annotate false p) outcome (s', log) ∧
      Consulted ocr labels log := by
  obtain ⟨outcome, s', log, hruns, hlog⟩ :=
    exists_heard (fun s r hs hr => exists_fits files ocr labels hs hr) (abides_annotate htime) hs []
  refine ⟨outcome, s', log, hruns, ?_, fun x hx => (hlog x hx).1⟩
  obtain ⟨hno, -⟩ | ⟨-, info, time, recorded, new, -, -, hnew, hending, hunchanged, hbudget⟩ :=
    annotate_cases hruns
  · exact absurd hpicture hno
  rw [List.nil_append] at hnew
  subst hnew
  obtain ⟨error, hrecorded⟩ : ∃ error, recorded = Except.error error :=
    (hlog ⟨.recordedTime p, recorded⟩ (by simp)).2 ⟨p, rfl⟩
  have hdecode : .decode p ∈ asked new := by
    have hother : outcome ≠ .skipped .unchanged ∧ outcome ≠ .skipped .budgetReached := by
      rw [Ne, hunchanged, Ne, hbudget, hrecorded]
      simp
    exact hending.decode_mem hother.1 hother.2
  obtain ⟨⟨r, answer⟩, hmem, rfl⟩ := List.mem_map.mp hdecode
  obtain ⟨bitmap, rfl⟩ := Option.ne_none_iff_exists'.mp (hlog _ (List.mem_append_right _ hmem)).1
  exact ⟨p, bitmap, List.mem_append_right _ hmem⟩

/-! ## Merged words -/

lemma Succeeds.of_alike (htext : TextAnswer.Alike ocr ocr')
    (hlabels : LabelAnswer.Alike e.threshold labels labels') (h : e.Succeeds ocr labels) :
    e.Succeeds ocr' labels' := by
  obtain ⟨huse, answer, rfl⟩ | ⟨huse, answer, rfl, hok⟩ := h
  · cases ocr' with
    | error => exact htext.elim
    | ok answer' => exact .inl ⟨huse, answer', rfl⟩
  · cases labels' with
    | error => exact hlabels.elim
    | ok answer' => exact .inr ⟨huse, answer', rfl, hlabels.1 ▸ hok⟩

lemma Contributes.of_alike (htext : TextAnswer.Alike ocr ocr')
    (hlabels : LabelAnswer.Alike e.threshold labels labels') (h : e.Contributes ocr labels w) :
    e.Contributes ocr' labels' w := by
  cases h with
  | line huse answer hanswer hw =>
    subst hanswer
    cases ocr' with
    | error => exact htext.elim
    | ok answer' => exact .line huse answer' rfl ((htext.exists_extract e.filter w).mp hw)
  | label huse answer hanswer hok hw =>
    subst hanswer
    cases labels' with
    | error => exact hlabels.elim
    | ok answer' =>
      refine .label huse answer' rfl (hlabels.1 ▸ hok) ?_
      exact answer'.exists_names.mp
        ((hlabels.2.exists_extract e.filter w).mp (answer.exists_names.mpr hw))

/-- What comes of an annotation that has decoded a picture. -/
lemma annotate_of_consulted (hb : e.backends.isEmpty = false)
    (hruns : Runs (Store.heard files) (s, []) (e.annotate exhausted p) outcome (s', log))
    (hlog : Consulted ocr labels log) :
    ∃ info time, files.info? p = some info ∧ info.modified = some time ∧
      let r : Record := ⟨p, time, UInt64.ofNat info.sizeBytes,
        e.wordsOf (readings ocr labels) p⟩
      (e.Succeeds ocr labels ∧ outcome = .annotated r.annotations.size ∧ s.insert r = .ok s' ∧
        ∀ r', .insert r' ∈ asked log ↔ r' = r) ∨
      (¬ e.Succeeds ocr labels ∧ outcome = .failed .backends ∧ s' = s ∧
        ∀ r', .insert r' ∉ asked log) := by
  obtain ⟨info, time, recorded, bitmap, hinfo, hmodified, hdescribe⟩ | ⟨hundecoded, -⟩ :=
    describes_of_annotate hruns
  swap
  · obtain ⟨q, bitmap, hdecoded⟩ := hlog.decoded
    exact absurd hdecoded (hundecoded q bitmap)
  refine ⟨info, time, hinfo, hmodified, ?_⟩
  obtain ⟨hsucceeds, houtcome, hinsert, hasked⟩ | ⟨hfails, houtcome, hstore, hasked⟩ :=
    describe_of_heard hb hdescribe hlog
  · refine .inl ⟨hsucceeds, houtcome, hinsert, fun r' => ?_⟩
    simp [hasked, preparations, insert_not_mem_consults]
  · refine .inr ⟨hfails, houtcome, hstore, fun r' => ?_⟩
    simp [hasked, preparations, insert_not_mem_consults]

/-- **The recorded words are those of the stages that succeed.**  Take any stop words, any threshold
and any set of backends that is not empty, and whatever the backends answer: texts, labels or
errors.  If a picture has been decoded and the store does not refuse its record, then

* a record is written exactly if a stage in use has succeeded; a classifier that reports an error
  has not.  Otherwise the outcome says so and the store is as before;
* the record has exactly the words of the lines and of the labels that count, each if its stage has
  succeeded, and as many are reported;
* the same outcome and the same store come of answers that differ from these in layout: in the order
  or the number of their lines or labels, or in the blanks at which they are broken.

All this can happen to every picture that is worth indexing. -/
theorem merged_words_are_union (hb : e.backends.isEmpty = false) (files : FileTree) (p : Path)
    (s : Store) (ocr : Except Error TextAnswer) (labels : Except Error LabelAnswer) :
    (∀ exhausted outcome s' log,
      Runs (Store.heard files) (s, []) (e.annotate exhausted p) outcome (s', log) →
      Consulted ocr labels log →
      ((∃ r, .insert r ∈ asked log) ↔ e.Succeeds ocr labels) ∧
      (¬ e.Succeeds ocr labels → outcome = .failed .backends ∧ s' = s) ∧
      (∀ r, .insert r ∈ asked log → r.path = p ∧ s.insert r = .ok s' ∧
        (r.Storable → s'.get p = .ok (some r.kept)) ∧
        outcome = .annotated r.annotations.size ∧
        ∀ w, w ∈ r.annotations.keys ↔ e.Contributes ocr labels w) ∧
      ∀ ocr' labels' outcome' s'' log', TextAnswer.Alike ocr ocr' →
        LabelAnswer.Alike e.threshold labels labels' →
        Runs (Store.heard files) (s, []) (e.annotate exhausted p) outcome' (s'', log') →
        Consulted ocr' labels' log' → outcome' = outcome ∧ s'' = s') ∧
    (files.LeadsToPicture e.maxSize p →
      (∀ info, files.info? p = some info → info.modified.isSome) → s.pictures ≠ none →
      ∃ outcome s' log, Runs (Store.heard files) (s, []) (e.annotate false p) outcome (s', log) ∧
        Consulted ocr labels log) := by
  refine ⟨fun exhausted outcome s' log hruns hlog => ?_,
    fun hpicture htime hs => exists_consulted hpicture htime hs ocr labels⟩
  obtain ⟨info, time, hinfo, hmodified, hend⟩ := annotate_of_consulted hb hruns hlog
  refine ⟨?_, ?_, ?_, ?_⟩
  · obtain ⟨hsucceeds, -, -, hasked⟩ | ⟨hfails, -, -, hasked⟩ := hend
    · exact iff_of_true ⟨_, (hasked _).mpr rfl⟩ hsucceeds
    · exact iff_of_false (fun ⟨r, hr⟩ => hasked r hr) hfails
  · obtain ⟨hsucceeds, -⟩ | ⟨-, houtcome, hstore, -⟩ := hend
    · exact fun hfails => absurd hsucceeds hfails
    · exact fun _ => ⟨houtcome, hstore⟩
  · intro r hr
    obtain ⟨-, houtcome, hinsert, hasked⟩ | ⟨-, -, -, hasked⟩ := hend
    · obtain rfl := (hasked r).mp hr
      exact ⟨rfl, hinsert, fun hstorable => Store.get_of_insert hstorable hinsert, houtcome,
        fun w => mem_wordsOf_iff hb⟩
    · exact absurd hr (hasked r)
  · intro ocr' labels' outcome' s'' log' htext hlabels hruns' hlog'
    obtain ⟨info', time', hinfo', hmodified', hend'⟩ := annotate_of_consulted hb hruns' hlog'
    obtain rfl := Option.some.inj (hinfo.symm.trans hinfo')
    obtain rfl := Option.some.inj (hmodified.symm.trans hmodified')
    have hsucceeds : e.Succeeds ocr labels ↔ e.Succeeds ocr' labels' :=
      ⟨.of_alike htext hlabels, .of_alike htext.symm hlabels.symm⟩
    have hwords : e.wordsOf (readings ocr' labels') p = e.wordsOf (readings ocr labels) p := by
      refine WordSet.ext_keys fun w => ?_
      rw [mem_wordsOf_iff hb, mem_wordsOf_iff hb]
      exact ⟨.of_alike htext.symm hlabels.symm, .of_alike htext hlabels⟩
    rw [hwords] at hend'
    obtain ⟨hyes, houtcome, hinsert, -⟩ | ⟨hno, houtcome, hstore, -⟩ := hend
    · obtain ⟨-, houtcome', hinsert', -⟩ | ⟨hno, -⟩ := hend'
      · exact ⟨houtcome'.trans houtcome.symm, Except.ok.inj (hinsert'.symm.trans hinsert)⟩
      · exact absurd (hsucceeds.mp hyes) hno
    · obtain ⟨hyes, -⟩ | ⟨-, houtcome', hstore', -⟩ := hend'
      · exact absurd (hsucceeds.mpr hyes) hno
      · exact ⟨houtcome'.trans houtcome.symm, hstore'.trans hstore.symm⟩

/-- A pipeline that reads texts and classifies. -/
def readerAndClassifier : Pipeline :=
  { (default : Pipeline) with backends := ⟨true, true⟩, maxSize := 100 }

lemma winter_leadsToPicture :
    winter.LeadsToPicture readerAndClassifier.maxSize winterPath ∧
      ∀ info, winter.info? winterPath = some info → info.modified.isSome := by
  have hinfo : winter.info? winterPath = some ⟨16, some winterTime⟩ := by decide +kernel
  have htype : (winter.pictureType winterPath).isIndexable = true := by decide +kernel
  refine ⟨FileTree.leadsToPicture_iff.mpr ⟨_, hinfo, by decide, by decide, htype⟩, ?_⟩
  rw [hinfo]
  rintro info ⟨⟩
  rfl

/-- Two lines of text. -/
def snowAndIce : TextAnswer := ⟨["Snow", "and ice"]⟩

/-- The same text on one line, with a line repeated. -/
def snowAndIceAgain : TextAnswer := ⟨["and ice", "Snow and\nice"]⟩

/-- A label of a classifier that has failed. -/
def failedLabel : LabelAnswer := ⟨.error, [{ (default : Label) with name := "Kitten" }]⟩

lemma snowAndIce_relaid : Relaid snowAndIce.lines snowAndIceAgain.lines := by
  have hblank : Text.isBlank ' ' = true ∧ Text.isBlank '\n' = true := by decide
  have hfirst : Relaid ["Snow", "and ice"] ["Snow", "and", "ice"] :=
    .broken ["Snow"] [] "and" "ice" hblank.1
  have hsecond : Relaid ["and ice", "Snow and\nice"] ["and", "ice", "Snow", "and", "ice"] :=
    (Relaid.broken [] ["Snow and\nice"] "and" "ice" hblank.1).trans
      ((Relaid.broken ["and", "ice"] [] "Snow and" "ice" hblank.2).trans
        (.broken ["and", "ice"] ["ice"] "Snow" "and" hblank.1))
  refine hfirst.trans (Relaid.trans (.shuffled fun t => ?_) hsecond.symm)
  simp only [List.mem_cons, List.not_mem_nil, or_false]
  tauto

/-- A text is recorded and a label of a classifier that has failed is not; and it is all the same if
the text is laid out in another way. -/
theorem merged_words_of_winter : readerAndClassifier.backends.isEmpty = false ∧
    ∃ outcome s' log log', Runs (Store.heard winter) (Store.new, [])
      (readerAndClassifier.annotate false winterPath) outcome (s', log) ∧
    Consulted (.ok snowAndIce) (.ok failedLabel) log ∧
    (∃ r, .insert r ∈ asked log ∧ "snow" ∈ r.annotations.keys ∧
      "kitten" ∉ r.annotations.keys) ∧
    Runs (Store.heard winter) (Store.new, []) (readerAndClassifier.annotate false winterPath)
      outcome (s', log') ∧
    Consulted (.ok snowAndIceAgain) (.ok failedLabel) log' := by
  have hsnow : "snow" ∈ readerAndClassifier.filter.extract "Snow" := by decide +kernel
  have hsucceeds : readerAndClassifier.Succeeds (.ok snowAndIce) (.ok failedLabel) :=
    .inl ⟨rfl, _, rfl⟩
  obtain ⟨hpicture, htime⟩ := winter_leadsToPicture
  obtain ⟨hwords, hruns⟩ := merged_words_are_union (e := readerAndClassifier) rfl winter winterPath
    Store.new (.ok snowAndIce) (.ok failedLabel)
  obtain ⟨-, hruns'⟩ := merged_words_are_union (e := readerAndClassifier) rfl winter winterPath
    Store.new (.ok snowAndIceAgain) (.ok failedLabel)
  obtain ⟨outcome, s', log, hrun, hlog⟩ := hruns hpicture htime (by decide)
  obtain ⟨outcome', s'', log', hrun', hlog'⟩ := hruns' hpicture htime (by decide)
  obtain ⟨hrecord, -, hmem, hsame⟩ := hwords false outcome s' log hrun hlog
  have htext : TextAnswer.Alike (.ok snowAndIce) (.ok snowAndIceAgain) := snowAndIce_relaid
  have hlabels : LabelAnswer.Alike readerAndClassifier.threshold (.ok failedLabel)
      (.ok failedLabel) :=
    ⟨rfl, .shuffled fun _ => Iff.rfl⟩
  obtain ⟨rfl, rfl⟩ := hsame _ _ outcome' s'' log' htext hlabels hrun' hlog'
  obtain ⟨r, hr⟩ := hrecord.mpr hsucceeds
  obtain ⟨-, -, -, -, hkeys⟩ := hmem r hr
  refine ⟨rfl, outcome', s'', log, log', hrun, hlog, ⟨r, hr, ?_, fun h => ?_⟩, hrun', hlog'⟩
  · exact (hkeys _).mpr (.line rfl _ rfl ⟨"Snow", by simp [snowAndIce], hsnow⟩)
  · cases (hkeys _).mp h with
    | line _ answer hanswer hw =>
      obtain rfl := Except.ok.inj hanswer
      revert hw
      decide +kernel
    | label _ answer hanswer hok =>
      obtain rfl := Except.ok.inj hanswer
      cases hok

end Pipeline

end PictureIndex
