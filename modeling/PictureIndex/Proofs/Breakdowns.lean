import PictureIndex.Proofs.Isolation
import PictureIndex.Proofs.StaleRecords
/-!
# Tasks that break down

A file may carry a modification time that lies outside the range of an `Instant`.  If a picture
worth indexing does, the task that looks at it breaks down when it comes to read the time: it is
gone without a report, and without having asked for its time to run.  No other item breaks its task
down.

So the items that do can be told from the files alone (`Item.BreaksDown`).  As long as a task is
told how the files are (`Pipeline.told`), it takes itself down exactly if its item is one of them
(`abides_unbroken`, `abides_broken`).
-/

namespace PictureIndex

/-- Whether the time can be told at which the file was modified to which a path leads. -/
def FileTree.tellsTime (t : FileTree) (p : Path) : Bool :=
  (t.info? p).any (·.modified.isSome)

/-- Whether the task of an item breaks down: the item asks to look at a picture worth indexing
whose time cannot be told. -/
structure Item.BreaksDown (maxSize : Nat) (files : FileTree) (item : Item) : Prop where
  /-- The path is to be looked at. -/
  work : item.work = .examine
  /-- A picture worth indexing stands there. -/
  picture : files.holdsPicture maxSize item.path = true
  /-- Its time cannot be told. -/
  untold : files.tellsTime item.path = false

instance (maxSize : Nat) (files : FileTree) (item : Item) :
    Decidable (item.BreaksDown maxSize files) :=
  decidable_of_iff (item.work = .examine ∧ files.holdsPicture maxSize item.path = true ∧
    files.tellsTime item.path = false)
    ⟨fun ⟨hwork, hpicture, huntold⟩ => ⟨hwork, hpicture, huntold⟩,
      fun h => ⟨h.work, h.picture, h.untold⟩⟩

/-- A picture worth indexing is a file of the right size and type. -/
lemma FileTree.exists_of_holdsPicture {t : FileTree} {maxSize : Nat} {p : Path}
    (h : t.holdsPicture maxSize p = true) : ∃ info, t.kind? p = some .file ∧
      t.info? p = some info ∧ 1 ≤ info.sizeBytes ∧ info.sizeBytes ≤ maxSize ∧
      (t.pictureType p).isIndexable = true := by
  have hkind : t.kind? p = some .file := by
    simp only [holdsPicture, Bool.and_eq_true, decide_eq_true_eq] at h
    exact h.1.1
  cases hinfo : t.info? p with
  | none => simp [holdsPicture, hinfo] at h
  | some info => exact ⟨info, hkind, rfl, (holdsPicture_iff hkind hinfo).mp h⟩

/-- Whether a time that an entry has can be told. -/
def Entry.tellsTime : Entry → Bool
  | .file _ modified => (FileTree.keptTime? modified).isSome
  | _ => true

/-- Nothing breaks down where the times can be told of all files there are. -/
lemma Item.not_breaksDown {files : FileTree} (h : ∀ x ∈ files.entries, x.2.tellsTime = true)
    (maxSize : Nat) (item : Item) : ¬ item.BreaksDown maxSize files := by
  rintro ⟨-, hpicture, huntold⟩
  obtain ⟨info, -, hinfo, -⟩ := FileTree.exists_of_holdsPicture hpicture
  rw [FileTree.tellsTime, hinfo, Option.any_some] at huntold
  rw [FileTree.info?] at hinfo
  split at hinfo
  · rename_i content modified htarget
    obtain rfl := Option.some.inj hinfo
    obtain ⟨l, -, hat⟩ := Option.bind_eq_some_iff.mp htarget
    cases l with
    | nil => cases hat
    | cons name rest =>
      obtain ⟨before, after, hentries, -⟩ := List.lookup_eq_some_iff.mp hat
      have htold := h (name :: rest, .file content modified) (by simp [hentries])
      exact Bool.false_ne_true (huntold.symm.trans htold)
  · cases hinfo

namespace Plan

/-- A task whose time runs does not take itself down. -/
lemma Keeps.within_of_armed {α : Type} {may : Bool} {q : Progress} {post : Progress → α → Prop}
    {plan : Plan α} (h : plan.Keeps may post q) (hq : q ≠ .fresh) :
    plan.Within (· ≠ .abort) fun _ => True := by
  induction plan generalizing q with
  | done a => trivial
  | ask r next ih =>
    refine ⟨?_, fun a => ih a (h.2 a) fun hfresh => hq (Progress.fresh_of_after hfresh).1⟩
    rintro rfl
    cases q with
    | fresh => exact hq rfl
    | armed | written => exact h.1

end Plan

namespace Pipeline

open Plan

variable (e : Pipeline) (exhausted : Bool) (p : Path) {files : FileTree} {item : Item}
  {answers : (r : Request) → r.Answer → Prop}

/-- The answers of files that stay as they are. -/
def told (files : FileTree) : (r : Request) → r.Answer → Prop
  | .kind p, a => a = files.kind? p
  | .sniff p, a => a = files.pictureType p
  | .info p, a => a = files.info? p
  | _, _ => True

/-- Once the time is known, nothing breaks down. -/
lemma unbroken_refresh (time : Instant) (size : Nat) :
    (e.refresh exhausted p time size).Within (· ≠ .abort) fun _ => True := by
  refine within_request.mpr ⟨by simp, fun recorded => ?_⟩
  split
  · trivial
  split
  · trivial
  refine within_request.mpr ⟨by simp, fun decoded => ?_⟩
  cases decoded with
  | none => trivial
  | some b =>
    refine within_request.mpr ⟨by simp, fun _ => ?_⟩
    exact (e.keeps_describe p b time size).within_of_armed (by simp)

/-- Annotating does not break down if the time can be told of what it would index. -/
lemma abides_annotate_unbroken (hanswers : ∀ r a, answers r a → told files r a)
    (htells : ∀ info, files.info? p = some info → 1 ≤ info.sizeBytes → info.sizeBytes ≤ e.maxSize →
      (files.pictureType p).isIndexable = true → info.modified.isSome = true) :
    (e.annotate exhausted p).Abides answers (· ≠ .abort) fun _ => True := by
  refine e.abides_annotate_of exhausted p (by simp) (by simp) (by simp) trivial ?_
    fun info time _ _ => (e.unbroken_refresh exhausted p time _).abides
  intro info hfinds huntold
  obtain ⟨type, htype, hfit⟩ := hfinds.type
  obtain rfl : type = files.pictureType p := hanswers _ _ htype
  have hread : some info = files.info? p := hanswers _ _ hfinds.told
  have htold := htells info hread.symm hfinds.size_pos hfinds.size_le hfit
  rw [huntold] at htold
  cases htold

/-- **No other item breaks its task down.** -/
theorem abides_unbroken (hanswers : ∀ r a, answers r a → told files r a)
    (hitem : ¬ item.BreaksDown e.maxSize files) :
    (e.process exhausted item).Abides answers (· ≠ .abort) fun _ => True := by
  obtain ⟨p, work⟩ := item
  cases work with
  | removeStale =>
    exact (within_removeStale p (by simp) (by simp) trivial trivial trivial).abides
  | examine =>
    refine abides_request (by simp) fun kind hkind => ?_
    have hstands : kind = files.kind? p := hanswers _ _ hkind
    rcases kind with _ | (_ | _ | _ | _)
    · exact (within_examineMissing p (by simp) (by simp) trivial trivial fun _ => trivial).abides
    · trivial
    · exact abides_request (by simp) fun _ _ => trivial
    · refine abides_request (by simp) fun type _ => ?_
      split
      · trivial
      refine e.abides_annotate_unbroken exhausted p hanswers fun info hinfo hpos hmax hfit => ?_
      by_contra huntold
      refine hitem ⟨rfl, (FileTree.holdsPicture_iff hstands.symm hinfo).mpr ⟨hpos, hmax, hfit⟩, ?_⟩
      rw [FileTree.tellsTime, hinfo, Option.any_some]
      simpa using huntold
    · trivial

/-- **An item that breaks its task down** never ends, nor does its time ever run. -/
theorem abides_broken (hanswers : ∀ r a, answers r a → told files r a)
    (hitem : item.BreaksDown e.maxSize files) :
    (e.process exhausted item).Abides answers (· ≠ .arm) fun _ => False := by
  obtain ⟨p, work⟩ := item
  obtain ⟨hwork, hpicture, huntold⟩ := hitem
  obtain rfl : work = .examine := hwork
  obtain ⟨info, hkind, hinfo, hpos, hmax, hfit⟩ := FileTree.exists_of_holdsPicture hpicture
  have htime : info.modified = none := by
    rw [FileTree.tellsTime, hinfo, Option.any_some] at huntold
    simpa using huntold
  refine abides_request (by simp) fun kind hanswer => ?_
  obtain rfl : kind = some .file := (hanswers _ _ hanswer).trans hkind
  refine abides_request (by simp) fun type hanswer => ?_
  obtain rfl : type = files.pictureType p := hanswers _ _ hanswer
  rw [if_neg fun hnot => by simp [hnot, PictureType.isIndexable] at hfit]
  refine abides_request (by simp) fun read hanswer => ?_
  obtain rfl : read = some info := (hanswers _ _ hanswer).trans hinfo
  simp only
  rw [if_neg (by simp only [Bool.or_eq_true, decide_eq_true_eq]; omega)]
  refine abides_request (by simp) fun type hanswer => ?_
  obtain rfl : type = files.pictureType p := hanswers _ _ hanswer
  rw [if_neg (by simp [hfit]), htime]
  exact abides_abort.mpr nofun

end Pipeline

end PictureIndex
