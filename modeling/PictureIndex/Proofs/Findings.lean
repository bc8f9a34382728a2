import PictureIndex.Proofs.Chronology
/-!
# What a record is made of

Annotating a picture first decides whether it is to be annotated at all (`Pipeline.Settles`), and
only then looks into it.  A plan that comes to write a record, or to find that there is one with the
present time, has been told of a picture worth indexing (`reaches_refresh`); from then on it asks
about the picture, and at last it writes a record with the time and the size that it was told and
with words that the decoder and the backends have led to, or the picture's name where there is no
backend (`Pipeline.Yields`, `abides_refresh`).
-/

namespace PictureIndex

variable {σ : Type*}

/-- The size of a picture that is not too big goes into a record as it is. -/
lemma Config.toNat_ofNat_size {c : Config} {size : Nat}
    (h : size ≤ c.maxFileSizeBytes.toNat) : (UInt64.ofNat size).toNat = size :=
  UInt64.toNat_ofNat_of_lt' (Nat.lt_of_le_of_lt h c.maxFileSizeBytes.toNat_lt)

namespace Pipeline

open Plan

variable (e : Pipeline) (exhausted : Bool) (p : Path)

/-! ## Words -/

/-- Where a word in the record of a path comes from, if these answers were given. -/
inductive Yields (answers : (r : Request) → r.Answer → Prop) (p : Path) (w : String) : Prop
  /-- From a line of text in the picture. -/
  | line (b : Bitmap) (answer : TextAnswer) (hdecode : answers (.decode p) (some b))
      (hanswer : answers (.recognise b) (.ok answer)) (l : String) (hl : l ∈ answer.lines)
      (hw : w ∈ e.filter.extract l)
  /-- From a label that counts. -/
  | label (answer : LabelAnswer) (hanswer : answers (.classify p) (.ok answer))
      (hok : answer.status = .ok) (l : Label) (hl : l ∈ answer.labels)
      (hcounts : l.counts e.threshold = true) (hw : w ∈ e.filter.extract l.name)
  /-- From the name of the file, where there is no backend. -/
  | name (hnone : e.backends.isEmpty = true) (hw : w ∈ nameWords p)

variable {e} {p} {answers : (r : Request) → r.Answer → Prop}

lemma Yields.mono {answers' : (r : Request) → r.Answer → Prop}
    (himp : ∀ r a, answers r a → answers' r a) {w : String} (h : e.Yields answers p w) :
    e.Yields answers' p w := by
  cases h with
  | line b answer hdecode hanswer l hl hw =>
    exact .line b answer (himp _ _ hdecode) (himp _ _ hanswer) l hl hw
  | label answer hanswer hok l hl hcounts hw =>
    exact .label answer (himp _ _ hanswer) hok l hl hcounts hw
  | name hnone hw => exact .name hnone hw

/-- The words of several texts, added one text after the other. -/
lemma mem_foldl_extend {f : WordFilter} {texts : List String} {ws : WordSet} {w : String} :
    w ∈ (texts.foldl f.extend ws).keys ↔ (∃ t ∈ texts, w ∈ f.extract t) ∨ w ∈ ws.keys := by
  induction texts generalizing ws with
  | nil => simp
  | cons t texts ih =>
    rw [List.foldl_cons, ih, WordFilter.extend, WordSet.mem_addAll, List.exists_mem_cons_iff,
      or_assoc, or_left_comm]

lemma fileName_mem_stages (h : .fileName ∈ e.stages) : e.backends.isEmpty = true := by
  rw [stages] at h
  split at h
  · assumption
  · obtain ⟨kind, -, hkind⟩ := List.mem_map.mp h
    cases kind <;> cases hkind

variable {allows : Request → Prop} {b : Bitmap}

/-- A stage adds words that its answer has led to. -/
lemma abides_runStage (hdecode : answers (.decode p) (some b)) (hocr : allows (.recognise b))
    (hclassifier : allows (.classify p)) {stage : Stage}
    (hname : stage = .fileName → e.backends.isEmpty = true) {ws : WordSet}
    (hws : ∀ w ∈ ws.keys, e.Yields answers p w) :
    (e.runStage p b ws stage).Abides answers allows fun found =>
      ∀ ws' ∈ found, ∀ w ∈ ws'.keys, e.Yields answers p w := by
  cases stage with
  | ocr =>
    refine abides_request hocr fun answer hanswer => ?_
    cases answer with
    | error => exact nofun
    | ok answer =>
      rintro ws' ⟨⟩ w hw
      rcases mem_foldl_extend.mp hw with ⟨l, hl, hnew⟩ | hold
      · exact .line b answer hdecode hanswer l hl hnew
      · exact hws w hold
  | classifier =>
    refine abides_request hclassifier fun answer hanswer => ?_
    rcases answer with error | answer
    · exact nofun
    simp only
    cases hstatus : answer.status with
    | error => exact nofun
    | ok =>
      rintro ws' ⟨⟩ w hw
      rw [LabelAnswer.addWords, hstatus] at hw
      rcases mem_foldl_extend.mp hw with ⟨_, hl, hnew⟩ | hold
      · obtain ⟨l, hmem, rfl⟩ := List.mem_map.mp hl
        obtain ⟨hlabel, hcounts⟩ := List.mem_filter.mp hmem
        exact .label answer hanswer hstatus l hlabel hcounts hnew
      · exact hws w hold
  | fileName =>
    rintro ws' ⟨⟩ w hw
    rcases WordSet.mem_addAll.mp hw with hnew | hold
    · exact .name (hname rfl) hnew
    · exact hws w hold

lemma abides_runStages (hdecode : answers (.decode p) (some b)) (hocr : allows (.recognise b))
    (hclassifier : allows (.classify p)) {stages : List Stage}
    (hname : .fileName ∈ stages → e.backends.isEmpty = true) {ws : WordSet}
    (hws : ∀ w ∈ ws.keys, e.Yields answers p w) :
    (e.runStages p b ws stages).Abides answers allows fun found =>
      ∀ w ∈ found.1.keys, e.Yields answers p w := by
  induction stages generalizing ws with
  | nil => exact hws
  | cons stage rest ih =>
    have hrest : .fileName ∈ rest → e.backends.isEmpty = true :=
      fun h => hname (List.mem_cons_of_mem stage h)
    have hstage : stage = .fileName → e.backends.isEmpty = true :=
      fun h => hname (h ▸ List.mem_cons_self)
    refine abides_bind.mpr
      ((abides_runStage hdecode hocr hclassifier hstage hws).mono fun found hfound => ?_)
    cases found with
    | none => exact ih hrest hws
    | some ws' => exact abides_bind.mpr ((ih hrest (hfound ws' rfl)).mono fun _ h => h)

/-! ## Looking into a picture -/

/-- What is asked of a picture that is to be annotated, with this time and size, and the record that
may be written then. -/
def Refreshes (e : Pipeline) (answers : (r : Request) → r.Answer → Prop) (p : Path)
    (time : Instant) (size : Nat) : Request → Prop
  | .recordedTime q | .decode q | .classify q => q = p
  | .arm | .recognise _ => True
  | .insert record => record.path = p ∧ record.lastModified = time ∧
      record.sizeBytes = UInt64.ofNat size ∧ ∀ w ∈ record.annotations.keys, e.Yields answers p w
  | _ => False

/-- **A picture that is annotated gets a record with what was found**, and it is left alone only if
its recorded time is the one it has. -/
lemma abides_refresh (time : Instant) (size : Nat) :
    (e.refresh exhausted p time size).Abides answers (e.Refreshes answers p time size)
      fun outcome => outcome = .skipped .unchanged → ∃ recorded,
        answers (.recordedTime p) recorded ∧ recorded.toOption = some (some time) := by
  refine abides_request rfl fun recorded hrecorded => ?_
  split
  · rename_i hsame
    exact fun _ => ⟨recorded, hrecorded, hsame⟩
  split
  · rintro ⟨⟩
  refine abides_request rfl fun decoded hdecode => ?_
  cases decoded with
  | none => rintro ⟨⟩
  | some b =>
    refine abides_request trivial fun _ _ => ?_
    rw [describe]
    split
    · rintro ⟨⟩
    have hocr : e.Refreshes answers p time size (.recognise b) := trivial
    have hclassifier : e.Refreshes answers p time size (.classify p) := rfl
    have hfound : (e.runStages p b Table.empty e.stages).Abides answers
        (e.Refreshes answers p time size) fun found =>
          ∀ w ∈ found.1.keys, e.Yields answers p w :=
      abides_runStages hdecode hocr hclassifier fileName_mem_stages (by simp [Table.mem_keys])
    refine abides_bind.mpr (hfound.mono fun found hwords => ?_)
    simp only
    split
    · rintro ⟨⟩
    refine abides_request ⟨rfl, rfl, rfl, hwords⟩ fun answer _ => ?_
    cases answer <;> rintro ⟨⟩

/-! ## Deciding on a picture -/

/-- Whether a plan is about to write a record, or has found one with the present time. -/
def Settles : Plan Outcome → Prop
  | .done outcome => outcome = .skipped .unchanged
  | .ask r _ => r.isInsert = true

/-- Whether a plan will do neither. -/
def Shuns (plan : Plan Outcome) : Prop :=
  plan.Within (fun r => r.isInsert = false) (· ≠ .skipped .unchanged)

variable {exhausted} {S : Surroundings σ} {s s' : σ} {plan plan' : Plan Outcome}

lemma Shuns.not_settles (h : Shuns plan) (hreach : Reaches S s plan s' plan') :
    ¬ Settles plan' := by
  have hplan' := Within.of_reaches h hreach
  cases plan' with
  | done outcome => exact hplan'
  | ask r next =>
    have hr : r.isInsert = false := hplan'.1
    simp [Settles, hr]

lemma shuns_reject (p : Path) : Shuns (reject p) := within_reject p rfl (by simp)

lemma shuns_abort : Shuns Plan.abort := within_abort.mpr rfl

lemma shuns_examineMissing (p : Path) : Shuns (examineMissing p) :=
  within_examineMissing p rfl rfl (by simp) (by simp) (by simp)

lemma shuns_removeStale (p : Path) : Shuns (removeStale p) :=
  within_removeStale p rfl rfl (by simp) (by simp) (by simp)

/-- A plan that has settled has been told more than that it is to ask first. -/
lemma reaches_of_settles {r : Request} {next : r.Answer → Plan Outcome} (hr : r.isInsert = false)
    (h : Reaches S s (.ask r next) s' plan) (hplan : Settles plan) :
    ∃ a t, S s r a t ∧ Reaches S t (next a) s' plan := by
  rcases reaches_ask.mp h with ⟨-, rfl⟩ | hrest
  · simp [Settles, hr] at hplan
  · exact hrest

/-- **Only pictures worth indexing are annotated**, or left alone for their time. -/
theorem reaches_refresh {item : Item} (h : Reaches S s (e.process exhausted item) s' plan)
    (hplan : Settles plan) : item.work = .examine ∧ ∃ t₁ t₂ t₃ t₄ type type' info time,
      S s (.kind item.path) (some .file) t₁ ∧ S t₁ (.sniff item.path) type t₂ ∧
      type ≠ PictureType.notImage ∧ S t₂ (.info item.path) (some info) t₃ ∧
      1 ≤ info.sizeBytes ∧ info.sizeBytes ≤ e.maxSize ∧ S t₃ (.sniff item.path) type' t₄ ∧
      info.modified = some time ∧
      Reaches S t₄ (e.refresh exhausted item.path time info.sizeBytes) s' plan := by
  obtain ⟨p, work⟩ := item
  cases work with
  | removeStale => exact absurd hplan ((shuns_removeStale p).not_settles h)
  | examine =>
    change Reaches S s (e.examine exhausted p) s' plan at h
    rw [examine_eq] at h
    refine ⟨rfl, ?_⟩
    obtain ⟨kind, t₁, hkind, hrest⟩ := reaches_of_settles rfl h hplan
    rcases kind with _ | (_ | _ | _ | _)
    · exact absurd hplan ((shuns_examineMissing p).not_settles hrest)
    · exact absurd hplan (Shuns.not_settles (by rintro ⟨⟩) hrest)
    · have hlist : Shuns (.ask (.list p) fun paths => .done (.expanded paths)) :=
        ⟨rfl, fun _ => by rintro ⟨⟩⟩
      exact absurd hplan (hlist.not_settles hrest)
    · obtain ⟨type, t₂, hsniff, hrest⟩ := reaches_of_settles rfl hrest hplan
      split at hrest
      · exact absurd hplan (Shuns.not_settles (by rintro ⟨⟩) hrest)
      · rename_i htype
        rw [annotate_eq] at hrest
        obtain ⟨info, t₃, hinfo, hrest⟩ := reaches_of_settles rfl hrest hplan
        cases info with
        | none => exact absurd hplan ((shuns_reject p).not_settles hrest)
        | some info =>
          simp only [Bool.or_eq_true, decide_eq_true_eq] at hrest
          split at hrest
          · exact absurd hplan ((shuns_reject p).not_settles hrest)
          · obtain ⟨type', t₄, hagain, hrest⟩ := reaches_of_settles rfl hrest hplan
            split at hrest
            · exact absurd hplan ((shuns_reject p).not_settles hrest)
            · split at hrest
              · exact absurd hplan (shuns_abort.not_settles hrest)
              · rename_i time htime
                exact ⟨t₁, t₂, t₃, t₄, type, type', info, time, hkind, hsniff, htype, hinfo,
                  by omega, by omega, hagain, htime, hrest⟩
    · exact absurd hplan (Shuns.not_settles (by rintro ⟨⟩) hrest)

end Pipeline

/-! ## Records that are written -/

namespace Simulation.Session

open Plan Log

variable {first : Session} {moves : Nat → Move} {e : Pipeline} {generation n : Nat}

/-- The answers that the task of a generation was given between two points. -/
def answered (first : Session) (moves : Nat → Move) (generation m n : Nat) (r : Request)
    (a : r.Answer) : Prop :=
  ∃ k, m < k ∧ k < n ∧ (first.after moves k).Told (moves k) generation r a

/-- What a plan abides by, given the answers between two points, it still abides by later on. -/
lemma abides_of_heard {allows : Request → Prop} {reports : Outcome → Prop} {m k k' : Nat}
    {plan plan' : Plan Outcome}
    (hplan : plan.Abides (first.answered moves generation m n) allows reports)
    (hreach : Reaches (first.heard moves generation) k plan k' plan') (hk : m < k) (hn : k' ≤ n) :
    plan'.Abides (first.answered moves generation m n) allows reports := by
  induction hreach with
  | refl => exact hplan
  | step hreach hanswer ih =>
    obtain ⟨j, rfl, hj, -, htold⟩ := hanswer
    have hkj := le_of_heard hreach
    exact (ih (by omega)).2 _ ⟨j, by omega, by omega, htold⟩

/-- What a task asks on the way is allowed by what its plan abides by. -/
lemma allowed_of_heard {allows : Request → Prop} {reports : Outcome → Prop} {m k k' i : Nat}
    {plan plan' : Plan Outcome} {r : Request}
    (hplan : plan.Abides (first.answered moves generation m n) allows reports)
    (hreach : Reaches (first.heard moves generation) k plan k' plan') (hk : m < k) (hn : k' ≤ n)
    (hi : k ≤ i) (hik' : i < k')
    (hasked : (first.after moves i).asked? (moves i) = some (generation, r)) : allows r := by
  induction hreach with
  | refl => omega
  | @step s' s'' r' next a hreach hanswer ih =>
    obtain ⟨j, rfl, hj, hsilent, htold, -⟩ := hanswer
    rcases Nat.lt_or_ge i s' with hlt | hge
    · exact ih (by omega) hlt
    rcases Nat.lt_succ_iff_lt_or_eq.mp hik' with hlt | rfl
    · exact absurd hasked (hsilent i hge hlt r)
    · obtain ⟨-, rfl⟩ := Prod.mk.inj (Option.some.inj (hasked.symm.trans htold))
      exact (abides_of_heard hplan hreach hk (by omega)).1

/-- **What a record that is written is made of.**  It is written for an item to be looked at, with
the size and the time that the item's task was told of its file, once, after it had been told that
the file is a picture; and its words were found afterwards. -/
theorem Chronicled.of_insert (h : Chronicled first moves e n (first.after moves n)) {task : Task}
    {record : Record} (hput : (first.after moves n).put? (moves n) = some (task, .insert record)) :
    ∃ item l exhausted b m type size, item.path = task.path ∧ item.work = .examine ∧
      record.path = item.path ∧
      .started item task.generation exhausted ∈
        Deed.log ((first.after moves l).deeds (moves l)) ∧ l < b ∧ b < m ∧ m < n ∧
      (first.after moves b).Told (moves b) task.generation (.sniff item.path) type ∧
      type ≠ PictureType.notImage ∧
      (first.after moves m).Told (moves m) task.generation (.info item.path)
        (some ⟨size, some record.lastModified⟩) ∧
      1 ≤ size ∧ size ≤ e.maxSize ∧ record.sizeBytes = UInt64.ofNat size ∧
      (∀ w ∈ record.annotations.keys,
        e.Yields (first.answered moves task.generation m n) item.path w) ∧
      ∀ i, l < i → i < n →
        (first.after moves i).asked? (moves i) = some (task.generation, .info item.path) →
          i = m := by
  obtain ⟨item, k, next, hpath, hk, ⟨l, exhausted, hstart, hreach⟩, hsilent⟩ := h.of_put hput
  obtain ⟨hwork, _, _, _, _, type, type', info, time, ⟨a, rfl, hla, hbefore, hkind⟩,
    ⟨b, rfl, hab, hquiet, hsniff⟩, htype, ⟨m, rfl, hbm, hquiet', hinfo⟩, hpos, hmax,
    ⟨d, rfl, hmd, hquiet'', hsniff'⟩, htime, hrest⟩ := Pipeline.reaches_refresh hreach rfl
  have hdk := le_of_heard hrest
  obtain ⟨size, modified⟩ := info
  obtain rfl : modified = some time := htime
  have hrefresh : (e.refresh exhausted item.path time size).Abides
      (first.answered moves task.generation m n)
      (e.Refreshes (first.answered moves task.generation m n) item.path time size) _ :=
    Pipeline.abides_refresh exhausted time size
  obtain ⟨hrecord, rfl, hsize, hwords⟩ := (abides_of_heard hrefresh hrest (by omega) hk).1
  refine ⟨item, l, exhausted, b, m, type, size, hpath, hwork, hrecord, hstart, by omega, by omega,
    by omega, hsniff, htype, hinfo, hpos, hmax, hsize, hwords, fun i hl hi hasked => ?_⟩
  -- before, it asked what the file is, and afterwards it asked about the picture
  have hother {j : Nat} {r : Request} {answer : r.Answer} (hr : r ≠ .info item.path)
      (htold : (first.after moves j).Told (moves j) task.generation r answer) : i ≠ j := by
    rintro rfl
    exact hr (Prod.mk.inj (Option.some.inj (htold.1.symm.trans hasked))).2
  have hnot {k' k'' : Nat} (hquiet : first.Silent moves task.generation k' k'') (hle : k' ≤ i) :
      k'' ≤ i := by
    by_contra hlt
    exact hquiet i hle (by omega) _ hasked
  have ha := hnot hbefore (by omega)
  have ha' := hother (by nofun) hkind
  have hb := hnot hquiet (by omega)
  have hb' := hother (by nofun) hsniff
  have hm := hnot hquiet' (by omega)
  rcases Nat.lt_or_ge m i with hlt | hge
  · have hd := hnot hquiet'' (by omega)
    have hd' := hother (by nofun) hsniff'
    rcases Nat.lt_or_ge i k with hik | hik
    · exact absurd (allowed_of_heard hrefresh hrest (by omega) hk (by omega) hik hasked) id
    · exact absurd hasked (hsilent i hik hi _)
  · omega

end Simulation.Session

end PictureIndex
