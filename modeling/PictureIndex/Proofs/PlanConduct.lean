import PictureIndex.Proofs.SchedulerTally
/-!
# How a task conducts itself

Whatever the answers to its requests are, the plan of an item goes through at most three stages.
At first it is *fresh*: it looks at files and the store, decodes, and may remove a record.  Then
it may ask for its time to run, once; from then on it is *armed* and asks nobody but the
annotation backends.  At last it may write a record, once, and then it has *written* and asks
nothing more.  It reports a picture as annotated exactly if it has written a record.  With a spent
budget it never writes.

`Plan.Keeps` says that a plan conducts itself in this way, and `keeps_examine` and
`keeps_removeStale` that the plans of items do.
-/

namespace PictureIndex

/-- How far a task has come. -/
inductive Progress
  /-- Its time does not run yet. -/
  | fresh
  /-- It has asked for its time to run. -/
  | armed
  /-- It has written a record. -/
  | written
deriving DecidableEq, Repr

namespace Progress

/-- Whether a request may be put at a point; `may` tells whether there is a budget for a record. -/
def Allows (may : Bool) : Progress → Request → Prop
  | .fresh, .recognise _ | .fresh, .classify _ | .fresh, .insert _ => False
  | .fresh, _ => True
  | .armed, .recognise _ | .armed, .classify _ => True
  | .armed, .insert _ => may = true
  | .armed, _ => False
  | .written, _ => False

/-- How far a task has come with an answer. -/
def after : Progress → (r : Request) → r.Answer → Progress
  | .fresh, .arm, _ => .armed
  | .armed, .insert _, .ok _ => .written
  | q, _, _ => q

/-- Whether an outcome may be reported at a point. -/
def Reports (q : Progress) (outcome : Outcome) : Prop :=
  q = .written ↔ fate? (some outcome) = some .annotated

section

variable {may : Bool} {q : Progress} {r : Request}

lemma Allows.ne_written (h : q.Allows may r) : q ≠ .written := by
  rintro rfl
  simp [Allows] at h

lemma Allows.fresh_of_arm (h : q.Allows may .arm) : q = .fresh := by
  cases q <;> simp_all [Allows]

lemma Allows.of_insert {record : Record} (h : q.Allows may (.insert record)) :
    q = .armed ∧ may = true := by
  cases q <;> simp_all [Allows]

lemma fresh_of_after {a : r.Answer} (h : q.after r a = .fresh) : q = .fresh ∧ r ≠ .arm := by
  cases q <;> cases r <;> simp_all [after]
  all_goals split at h <;> simp_all

/-- Only by writing does one get to the end. -/
lemma insert_of_after {a : r.Answer} (hq : q ≠ .written) (h : q.after r a = .written) :
    ∃ record, r = .insert record := by
  cases q <;> cases r <;> simp_all [after]

end

end Progress

namespace Plan

variable {α β : Type} {may : Bool} {q : Progress} {post : Progress → α → Prop}

/-- Whether a plan conducts itself as said above, starting at a point, and ends as `post` says. -/
def Keeps (may : Bool) (post : Progress → α → Prop) : Progress → Plan α → Prop
  | q, .done a => post q a
  | q, .ask r next => q.Allows may r ∧ ∀ a, Keeps may post (q.after r a) (next a)

@[simp] lemma keeps_done (a : α) : Keeps may post q (.done a) ↔ post q a := Iff.rfl

@[simp] lemma keeps_ask (r : Request) (next : r.Answer → Plan α) :
    Keeps may post q (.ask r next) ↔
      q.Allows may r ∧ ∀ a, Keeps may post (q.after r a) (next a) := Iff.rfl

lemma keeps_request {r : Request} {f : r.Answer → Plan α} :
    Keeps may post q (request r >>= f) ↔
      q.Allows may r ∧ ∀ a, Keeps may post (q.after r a) (f a) := Iff.rfl

lemma keeps_bind (p : Plan β) (f : β → Plan α) :
    Keeps may post q (p >>= f) ↔ Keeps may (fun q b => Keeps may post q (f b)) q p := by
  induction p generalizing q with
  | done b => rfl
  | ask r next ih =>
    rw [ask_bind, keeps_ask, keeps_ask]
    exact and_congr_right fun _ => forall_congr' fun a => ih a

end Plan

namespace Pipeline

open Plan

variable (e : Pipeline) (may : Bool) (p : Path)

lemma keeps_runStage (b : Bitmap) (ws : WordSet) (stage : Stage)
    {post : Progress → Option WordSet → Prop} (hpost : ∀ ws, post .armed ws) :
    Keeps may post .armed (e.runStage p b ws stage) := by
  cases stage with
  | ocr =>
    refine ⟨trivial, fun answer => ?_⟩
    cases answer <;> exact hpost _
  | classifier =>
    refine ⟨trivial, fun answer => ?_⟩
    rcases answer with error | ⟨_ | _, labels⟩ <;> exact hpost _
  | fileName => exact hpost _

lemma keeps_runStages (b : Bitmap) (ws : WordSet) (stages : List Stage)
    {post : Progress → WordSet × Nat → Prop} (hpost : ∀ found, post .armed found) :
    Keeps may post .armed (e.runStages p b ws stages) := by
  induction stages generalizing ws post with
  | nil => exact hpost _
  | cons stage rest ih =>
    refine (keeps_bind _ _).mpr (keeps_runStage e may p b ws stage fun found => ?_)
    cases found with
    | none => exact ih ws hpost
    | some ws => exact (keeps_bind _ _).mpr (ih ws fun _ => hpost _)

/-- Only what has written reports a picture as annotated. -/
lemma reports_iff_of_ne {q : Progress} {outcome : Outcome} (hq : q ≠ .written)
    (houtcome : fate? (some outcome) ≠ some .annotated) : q.Reports outcome :=
  iff_of_false hq houtcome

/-- Describing a picture writes at most one record, and tells so. -/
lemma keeps_describe (b : Bitmap) (time : Instant) (size : Nat) :
    Keeps true Progress.Reports .armed (e.describe p b time size) := by
  rw [describe]
  split
  · exact reports_iff_of_ne nofun nofun
  · refine (keeps_bind _ _).mpr (keeps_runStages e true p b _ _ fun found => ?_)
    simp only
    split
    · exact reports_iff_of_ne nofun nofun
    · refine ⟨rfl, fun answer => ?_⟩
      cases answer with
      | ok => exact iff_of_true rfl rfl
      | error => exact reports_iff_of_ne nofun nofun

lemma keeps_develop (time : Instant) (size : Nat) :
    Keeps true Progress.Reports .fresh (e.develop p time size) := by
  refine ⟨trivial, fun decoded => ?_⟩
  cases decoded with
  | none => exact reports_iff_of_ne nofun nofun
  | some b => exact ⟨trivial, fun _ => keeps_describe e p b time size⟩

lemma keeps_reject : Keeps may Progress.Reports .fresh (reject p) :=
  ⟨trivial, fun _ => reports_iff_of_ne nofun nofun⟩

lemma keeps_abort : Keeps may Progress.Reports .fresh Plan.abort :=
  ⟨trivial, fun answer => answer.elim⟩

lemma keeps_removeRecord : Keeps may Progress.Reports .fresh (removeRecord p) := by
  refine ⟨trivial, fun answer => ?_⟩
  cases answer <;> exact reports_iff_of_ne nofun nofun

lemma keeps_refresh (exhausted : Bool) (time : Instant) (size : Nat) :
    Keeps (!exhausted) Progress.Reports .fresh (e.refresh exhausted p time size) := by
  refine keeps_request.mpr ⟨trivial, fun recorded => ?_⟩
  split
  · exact reports_iff_of_ne nofun nofun
  · cases exhausted with
    | true => exact reports_iff_of_ne nofun nofun
    | false => exact keeps_develop e p time size

lemma keeps_annotate (exhausted : Bool) :
    Keeps (!exhausted) Progress.Reports .fresh (e.annotate exhausted p) := by
  refine keeps_request.mpr ⟨trivial, fun info => ?_⟩
  cases info with
  | none => exact keeps_reject _ p
  | some info =>
    simp only
    split
    · exact keeps_reject _ p
    · refine keeps_request.mpr ⟨trivial, fun type => ?_⟩
      split
      · exact keeps_reject _ p
      · cases info.modified with
        | none => exact keeps_abort _
        | some time => exact keeps_refresh e p exhausted time _

lemma keeps_examineMissing : Keeps may Progress.Reports .fresh (examineMissing p) := by
  rw [examineMissing]
  split
  · exact keeps_removeRecord may p
  · refine keeps_request.mpr ⟨trivial, fun answer => ?_⟩
    cases answer <;> exact reports_iff_of_ne nofun nofun

/-- **The plan of a path to be looked at** conducts itself: it asks backends only when its time
runs, and what it reports as annotated is what it has written, at most once and only within the
budget. -/
theorem keeps_examine (exhausted : Bool) :
    Keeps (!exhausted) Progress.Reports .fresh (e.examine exhausted p) := by
  refine keeps_request.mpr ⟨trivial, fun kind => ?_⟩
  rcases kind with _ | (_ | _ | _ | _)
  · exact keeps_examineMissing _ p
  · exact reports_iff_of_ne nofun nofun
  · exact keeps_request.mpr ⟨trivial, fun entries => reports_iff_of_ne nofun nofun⟩
  · refine keeps_request.mpr ⟨trivial, fun type => ?_⟩
    split
    · exact reports_iff_of_ne nofun nofun
    · exact keeps_annotate e p exhausted
  · exact reports_iff_of_ne nofun nofun

/-- The plan of a record to be removed conducts itself. -/
theorem keeps_removeStale : Keeps may Progress.Reports .fresh (removeStale p) := by
  refine ⟨trivial, fun kind => ?_⟩
  cases kind with
  | none => exact keeps_removeRecord may p
  | some kind => exact reports_iff_of_ne nofun nofun

end Pipeline

end PictureIndex
