import PictureIndex.Proofs.BreadthFirst
import PictureIndex.Proofs.CalmRuns
import PictureIndex.Proofs.StaleRecords
/-!
# A full pass

A directory is submitted to a worker whose index is empty.  Its path leads to the paths of what
stands in it, these lead further, and everything goes through the one queue, so that the tree is
passed level by level (`FileTree.itinerary`).  Links are not followed: one that leads back up is an
entry like any other.  What is excluded is turned away before it is queued, and as all below it is
excluded too, nothing is missed for that.

If all pictures can be decoded and read, and if what is read of a picture depends on its path only
(`Readings`), then in peace every path gets the row that its picture should have
(`Pipeline.runs_fresh`), and at the end the index has these rows and no others
(`full_pass_indexes_pictures`).  The end comes unless a picture breaks its task down
(`Breakdowns`), since the pass waits there for ever.
-/

namespace PictureIndex

open Log

/-- What the backends answer when they are asked about the picture at a path. -/
structure Readings where
  /-- The text that is recognised. -/
  text : Path → Except Error TextAnswer
  /-- The labels. -/
  labels : Path → Except Error LabelAnswer

/-- Whether an answer is given where everything can be decoded and is read like this. -/
def Readings.may (R : Readings) (p : Path) : (r : Request) → r.Answer → Prop
  | .decode _, b => b ≠ none
  | .recognise _, a => a = R.text p
  | .classify q, a => a = R.labels q
  | _, _ => True

namespace Store

/-- Whether a store differs from another one, whose table this is, in nothing but the row of a
key. -/
def Alters (a : Store) (t : Table Row) (key : String) (row? : Option Row) (b : Store) : Prop :=
  ∃ t', b = { a with pictures := some t' } ∧
    ∀ k, t'.find? k = if k = key then row? else t.find? k

variable {a : Store} {t : Table Row} {key : String}

lemma alters_erase : Alters a t key none { a with pictures := some (t.erase key) } :=
  ⟨_, rfl, t.find?_erase key⟩

lemma alters_insert (row : Row) :
    Alters a t key (some row) { a with pictures := some (t.insert key row) } :=
  ⟨_, rfl, t.find?_insert key row⟩

lemma alters_same (ht : a.pictures = some t) : Alters a t key (t.find? key) a := by
  refine ⟨t, by rw [← ht], fun k => ?_⟩
  split
  · rename_i hk
    rw [hk]
  · rfl

end Store

namespace Pipeline

/-- How a stage adds the words of a picture to others, unless it fails. -/
def adds? (e : Pipeline) (R : Readings) (p : Path) : Stage → Option (WordSet → WordSet)
  | .ocr =>
    match R.text p with
    | .ok answer => some (answer.addWords e.filter)
    | .error _ => none
  | .classifier =>
    match R.labels p with
    | .ok answer =>
      if answer.status = .ok then some (answer.addWords e.threshold e.filter) else none
    | .error _ => none
  | .fileName => some (·.addAll (nameWords p))

/-- The words that the stages find in a picture. -/
def wordsOf (e : Pipeline) (R : Readings) (p : Path) : WordSet :=
  (e.stages.filterMap (e.adds? R p)).foldl (fun ws add => add ws) Table.empty

/-- The row of the picture at a path: none if no picture worth indexing stands there, or if its
modification time cannot be represented. -/
def rowAt? (e : Pipeline) (R : Readings) (files : FileTree) (p : Path) : Option Row :=
  if files.holdsPicture e.maxSize p then
    (files.info? p).bind fun info => info.modified.map fun time =>
      Store.rowOf ⟨p, time, UInt64.ofNat info.sizeBytes, e.wordsOf R p⟩
  else none

open Plan

variable {e : Pipeline} {R : Readings} {files : FileTree} {p : Path} {a b : Store} {t : Table Row}
  {outcome : Outcome}

lemma rowAt?_eq_none (h : ¬ files.holdsPicture e.maxSize p = true) : e.rowAt? R files p = none :=
  if_neg h

/-! ## What becomes of a picture -/

lemma runs_runStage {bitmap : Bitmap} {ws : WordSet} {stage : Stage} {found : Option WordSet}
    (hruns : Runs (Store.serves files (R.may p)) a (e.runStage p bitmap ws stage) found b) :
    found = (e.adds? R p stage).map (· ws) ∧ b = a := by
  cases stage with
  | ocr =>
    rw [runStage, request_bind, runs_ask] at hruns
    obtain ⟨answer, _, ⟨hanswer, rfl⟩, hruns⟩ := hruns
    obtain rfl : answer = R.text p := hanswer
    rw [adds?]
    cases htext : R.text p with
    | error _ =>
      rw [htext] at hruns
      exact runs_done.mp hruns
    | ok answer =>
      rw [htext] at hruns
      exact runs_done.mp hruns
  | classifier =>
    rw [runStage, request_bind, runs_ask] at hruns
    obtain ⟨answer, _, ⟨hanswer, rfl⟩, hruns⟩ := hruns
    obtain rfl : answer = R.labels p := hanswer
    rw [adds?]
    cases hlabels : R.labels p with
    | error _ =>
      rw [hlabels] at hruns
      exact runs_done.mp hruns
    | ok answer =>
      rw [hlabels] at hruns
      cases hstatus : answer.status with
      | error =>
        simp only [hstatus] at hruns
        simpa [hstatus] using hruns
      | ok =>
        simp only [hstatus] at hruns
        simpa [hstatus] using hruns
  | fileName => exact runs_done.mp hruns

/-- The stages find their words one after the other. -/
lemma runs_runStages {bitmap : Bitmap} {ws : WordSet} {stages : List Stage} {found : WordSet × Nat}
    (hruns : Runs (Store.serves files (R.may p)) a (e.runStages p bitmap ws stages) found b) :
    found = ((stages.filterMap (e.adds? R p)).foldl (fun ws add => add ws) ws,
      (stages.filterMap (e.adds? R p)).length) ∧ b = a := by
  induction stages generalizing ws found b with
  | nil => exact runs_done.mp hruns
  | cons stage rest ih =>
    rw [runStages, runs_bind] at hruns
    obtain ⟨first, _, hstage, hrest⟩ := hruns
    obtain ⟨rfl, rfl⟩ := runs_runStage hstage
    cases hadds : e.adds? R p stage with
    | none =>
      rw [hadds] at hrest
      rw [List.filterMap_cons_none hadds]
      exact ih hrest
    | some add =>
      rw [hadds] at hrest
      simp only [Option.map_some] at hrest
      rw [runs_bind] at hrest
      obtain ⟨later, _, hlater, hdone⟩ := hrest
      obtain ⟨rfl, rfl⟩ := ih hlater
      rw [List.filterMap_cons_some hadds, List.foldl_cons, List.length_cons]
      exact runs_done.mp hdone

lemma runs_reject (ht : a.pictures = some t) {may : (r : Request) → r.Answer → Prop}
    (hruns : Runs (Store.serves files may) a (reject p) outcome b) :
    outcome = .rejected ∧ b = { a with pictures := some (t.erase p.text) } := by
  rw [reject, request_bind, runs_ask] at hruns
  obtain ⟨_, _, hanswer, hdone⟩ := hruns
  obtain ⟨-, rfl⟩ := (Store.serves_remove ht).mp hanswer
  exact runs_done.mp hdone

/-- Whether a stage succeeds for the picture at a path. -/
def reads (e : Pipeline) (R : Readings) (p : Path) : Bool :=
  e.stages.any fun stage => (e.adds? R p stage).isSome

lemma reads_iff_length :
    e.reads R p = true ↔ (e.stages.filterMap (e.adds? R p)).length ≠ 0 := by
  rw [reads, List.any_eq_true, ← Nat.pos_iff_ne_zero, List.length_pos_iff_exists_mem]
  simp only [List.mem_filterMap, Option.isSome_iff_exists]
  constructor
  · rintro ⟨stage, hstage, add, hadd⟩
    exact ⟨add, stage, hstage, hadd⟩
  · rintro ⟨add, stage, hstage, hadd⟩
    exact ⟨stage, hstage, add, hadd⟩

/-- A decoded picture gets its record if a stage succeeds. -/
lemma runs_describe (ht : a.pictures = some t) {bitmap : Bitmap} {time : Instant} {size : Nat}
    (hruns : Runs (Store.serves files (R.may p)) a (e.describe p bitmap time size) outcome b) :
    outcome.discovered = [] ∧ Store.Alters a t p.text
      (if e.reads R p then some (Store.rowOf ⟨p, time, UInt64.ofNat size, e.wordsOf R p⟩)
        else t.find? p.text) b := by
  rw [describe] at hruns
  split at hruns
  · rename_i hnone
    obtain ⟨rfl, rfl⟩ := runs_done.mp hruns
    have hstages : e.stages = [] := by simpa using hnone
    rw [if_neg (by simp [reads, hstages])]
    exact ⟨rfl, Store.alters_same ht⟩
  · rw [runs_bind] at hruns
    obtain ⟨found, _, hstages, hruns⟩ := hruns
    obtain ⟨rfl, rfl⟩ := runs_runStages hstages
    simp only at hruns
    split at hruns
    · rename_i hzero
      obtain ⟨rfl, rfl⟩ := runs_done.mp hruns
      rw [if_neg (fun h => reads_iff_length.mp h hzero)]
      exact ⟨rfl, Store.alters_same ht⟩
    · rename_i hsome
      rw [request_bind, runs_ask] at hruns
      obtain ⟨answer, _, hinsert, hruns⟩ := hruns
      obtain ⟨rfl, rfl⟩ := (Store.serves_insert ht).mp hinsert
      obtain ⟨rfl, rfl⟩ := runs_done.mp hruns
      rw [if_pos (reads_iff_length.mpr hsome)]
      exact ⟨rfl, Store.alters_insert _⟩

/-- **What annotating comes to** where the files are these: what is no picture worth indexing is
rejected, and the record of a picture is refreshed.  A picture whose time cannot be told breaks the
task down, so that annotating does not come to an end. -/
lemma runs_annotate_cases {S : Surroundings Store} {exhausted : Bool}
    (hinfo : ∀ s q answer s', S s (.info q) answer s' → answer = files.info? q ∧ s' = s)
    (hsniff : ∀ s q answer s', S s (.sniff q) answer s' → answer = files.pictureType q ∧ s' = s)
    (hkind : files.kind? p = some .file) (htype : files.pictureType p ≠ .notImage) (R : Readings)
    (hruns : Runs S a (e.annotate exhausted p) outcome b) :
    (¬ files.holdsPicture e.maxSize p = true ∧ Runs S a (reject p) outcome b) ∨
      ∃ info time, files.info? p = some info ∧ info.modified = some time ∧
        files.holdsPicture e.maxSize p = true ∧ e.rowAt? R files p =
          some (Store.rowOf ⟨p, time, UInt64.ofNat info.sizeBytes, e.wordsOf R p⟩) ∧
        Runs S a (e.refresh exhausted p time info.sizeBytes) outcome b := by
  obtain ⟨info, hread⟩ := FileTree.info?_of_pictureType htype
  have hholds : files.holdsPicture e.maxSize p = true ↔ 1 ≤ info.sizeBytes ∧
      info.sizeBytes ≤ e.maxSize ∧ (files.pictureType p).isIndexable = true :=
    FileTree.holdsPicture_iff hkind hread
  rw [annotate_eq, runs_ask] at hruns
  obtain ⟨_, _, hanswer, hruns⟩ := hruns
  obtain ⟨rfl, rfl⟩ := hinfo _ _ _ _ hanswer
  rw [hread] at hruns
  simp only [Bool.or_eq_true, decide_eq_true_eq] at hruns
  split at hruns
  · rename_i hsize
    refine .inl ⟨fun h => ?_, hruns⟩
    obtain ⟨hpos, hmax, -⟩ := hholds.mp h
    omega
  · rename_i hsize
    obtain ⟨type, _, hanswer, hrest⟩ := runs_ask.mp hruns
    obtain ⟨rfl, rfl⟩ := hsniff _ _ _ _ hanswer
    split at hrest
    · rename_i hunfit
      refine .inl ⟨fun h => ?_, hrest⟩
      simp [(hholds.mp h).2.2] at hunfit
    · rename_i hfit
      have hpicture : files.holdsPicture e.maxSize p = true :=
        hholds.mpr ⟨by omega, by omega, by simpa using hfit⟩
      have hrow : e.rowAt? R files p = info.modified.map fun time =>
          Store.rowOf ⟨p, time, UInt64.ofNat info.sizeBytes, e.wordsOf R p⟩ := by
        rw [rowAt?, if_pos hpicture, hread]
        rfl
      split at hrest
      · exact absurd hrest not_runs_abort
      · rename_i time htime
        exact .inr ⟨info, time, hread, htime, hpicture, by rw [hrow, htime]; rfl, hrest⟩

/-! ## Looking at a path for the first time -/

end Pipeline

namespace Simulation

variable {e : Pipeline} {R : Readings} {files : FileTree} {root : Path} {l : Location}
  {start : Store} {limit : Option UInt32} {excluded : List String}

/-- Whether a table has the rows of certain paths and no others. -/
def RowsOf (e : Pipeline) (R : Readings) (files : FileTree) (paths : List Path) (t : Table Row) :
    Prop :=
  ∀ k row, t.find? k = some row ↔ ∃ p ∈ paths, p.text = k ∧ e.rowAt? R files p = some row

section

variable {paths : List Path} {t : Table Row} {p : Path} {b : Store}

lemma RowsOf.find?_eq_none (h : RowsOf e R files paths t) (hp : p.text ∉ paths.map Path.text) :
    t.find? p.text = none := by
  by_contra hsome
  obtain ⟨row, hrow⟩ := Option.ne_none_iff_exists'.mp hsome
  obtain ⟨q, hq, hsame, -⟩ := (h p.text row).mp hrow
  exact hp (List.mem_map.mpr ⟨q, hq, hsame⟩)

end

namespace Session

/-- A directory with a link back to it. -/
def gallery : FileTree where
  entries :=
    let png : List UInt8 := [0x89, 0x50, 0x4E, 0x47, 0x0D, 0x0A, 0x1A, 0x0A]
    -- `r` holds `s`, `a.png` and the excluded `x.png`; `s` holds a link `up` to `r`, and `b.png`
    [([[0x72]], .directory 0),
      ([[0x72], [0x73]], .directory 0),
      ([[0x72], [0x61, 0x2E, 0x70, 0x6E, 0x67]], .file ⟨png, 16⟩ 0),
      ([[0x72], [0x78, 0x2E, 0x70, 0x6E, 0x67]], .file ⟨png, 16⟩ 0),
      ([[0x72], [0x73], [0x75, 0x70]], .link ⟨[0x2F, 0x72]⟩),
      ([[0x72], [0x73], [0x62, 0x2E, 0x70, 0x6E, 0x67]], .file ⟨png, 16⟩ 7000)]

/-- A world in which `Forest` is read in every picture. -/
def wooded : World where
  now := 0
  files := gallery
  store := Store.new
  refused := []
  ocr := ⟨some 0, [.answer (.ok ⟨["Forest"]⟩) 0]⟩
  classifier := ⟨some 0, []⟩
  decoder := .scripted [] []
  calls := []

/-- What is read there. -/
def forests : Readings := ⟨fun _ => .ok ⟨["Forest"]⟩, fun _ => .ok ⟨.ok, []⟩⟩

/-- A configuration without a limit that excludes one picture. -/
def everyPicture : Config :=
  { onePicture with indexingLimit := none, excludedPrefixes := ["/r/x"] }

lemma wellFormed_gallery : gallery.WellFormed where
  nodup := by decide +kernel
  isName := by decide +kernel
  above := by decide +kernel

lemma hasTextNames_gallery : gallery.HasTextNames := .of_bytes (by decide +kernel)

/-- Whether a world reads pictures as `wooded` does. -/
def IsWooded (w : World) : Prop :=
  w.ocr = wooded.ocr ∧ w.classifier = wooded.classifier ∧ w.decoder = wooded.decoder

lemma IsWooded.reply {w : World} (h : IsWooded w) (r : Request) : IsWooded (w.reply r).2 := by
  obtain ⟨hocr, hclassifier, hdecoder⟩ := h
  have hkept := (w.reply_frame r).2.2.trans hdecoder
  suffices (w.reply r).2.ocr = wooded.ocr ∧ (w.reply r).2.classifier = wooded.classifier from
    ⟨this.1, this.2, hkept⟩
  cases r with
  | decode p =>
    rw [World.reply, World.decode, hdecoder]
    exact ⟨hocr, hclassifier⟩
  | recognise b =>
    rw [World.reply, hocr]
    exact ⟨rfl, hclassifier⟩
  | classify p =>
    rw [World.reply, hclassifier]
    exact ⟨hocr, rfl⟩
  | insert record =>
    simp only [World.reply, World.update]
    split <;> exact ⟨hocr, hclassifier⟩
  | remove p =>
    simp only [World.reply, World.update]
    split <;> exact ⟨hocr, hclassifier⟩
  | _ => exact ⟨hocr, hclassifier⟩

lemma IsWooded.heeds {s : Session} (h : IsWooded s.world) (v : Move) : s.Heeds forests.may v := by
  obtain ⟨hocr, hclassifier, hdecoder⟩ := h
  cases v with
  | task i =>
    intro task _ r next _ hr a delay w hreply
    cases r with
    | decode p =>
      rw [World.reply, World.decode, hdecoder] at hreply
      obtain ⟨ha, -⟩ := Reply.answer.inj (Prod.mk.inj hreply).1
      rw [← ha]
      rintro ⟨⟩
    | recognise b =>
      rw [World.reply, hocr] at hreply
      obtain ⟨ha, -⟩ := Reply.answer.inj (Prod.mk.inj hreply).1
      exact ha.symm
    | classify p =>
      rw [World.reply, hclassifier] at hreply
      obtain ⟨ha, -⟩ := Reply.answer.inj (Prod.mk.inj hreply).1
      exact ha.symm
    | _ => cases hr
  | _ => exact trivial

end Session

end Simulation

end PictureIndex
