import PictureIndex.Proofs.CalmRuns
import PictureIndex.Proofs.PathTexts
/-!
# Where records come from

A store is written by processing items, one after the other, each with whatever files, backends and
configuration there were then, and each perhaps cut off somewhere (`Store.Written`).  A record is
then that of a path with the extension of a picture, since no other file is ever opened
(`Written.ofCandidates`).
-/

namespace PictureIndex

/-- Whether a request sets a record. -/
def Request.isInsert : Request → Bool
  | .insert _ => true
  | _ => false

/-- The path that a request names. -/
def Request.path? : Request → Option Path
  | .kind p | .list p | .sniff p | .info p | .recordedTime p | .decode p | .classify p | .remove p
  | .under p => some p
  | .insert r => some r.path
  | .arm | .recognise _ | .abort => none

/-- Whether a request names no path but this one. -/
def Request.IsOf (p : Path) (r : Request) : Prop := r.path? = none ∨ r.path? = some p

namespace Plan

variable {α β : Type} {allows : Request → Prop}

/-- Whether a plan puts only certain requests. -/
abbrev Puts (allows : Request → Prop) (plan : Plan α) : Prop := plan.Within allows fun _ => True

lemma puts_bind {plan : Plan β} {f : β → Plan α} (hplan : plan.Puts allows)
    (hf : ∀ b, (f b).Puts allows) : (plan >>= f).Puts allows :=
  within_bind.mpr (hplan.mono fun b _ => hf b)

lemma puts_request {r : Request} (hr : allows r) : (request r).Puts allows :=
  ⟨hr, fun _ => trivial⟩

end Plan

namespace Pipeline

open Plan

variable (e : Pipeline) (exhausted : Bool) (p : Path) {allows : Request → Prop}

section

variable (hother : ∀ r : Request, r.isInsert = false → r.IsOf p → allows r)

include hother

lemma puts_runStages (b : Bitmap) (ws : WordSet) (stages : List Stage) :
    (e.runStages p b ws stages).Puts allows := by
  induction stages generalizing ws with
  | nil => trivial
  | cons stage rest ih =>
    have hstage : (e.runStage p b ws stage).Puts allows := by
      cases stage with
      | ocr =>
        refine puts_bind (puts_request (hother _ rfl (.inl rfl))) fun a => ?_
        cases a <;> trivial
      | classifier =>
        refine puts_bind (puts_request (hother _ rfl (.inr rfl))) fun a => ?_
        rcases a with _ | answer
        · trivial
        · simp only
          split <;> trivial
      | fileName => trivial
    refine puts_bind hstage fun found => ?_
    cases found with
    | none => exact ih ws
    | some ws => exact puts_bind (ih ws) fun _ => trivial

lemma puts_reject : (reject p).Puts allows := within_reject p (hother _ rfl (.inr rfl)) trivial

lemma puts_examineMissing : (examineMissing p).Puts allows :=
  within_examineMissing p (hother _ rfl (.inr rfl)) (hother _ rfl (.inr rfl)) trivial trivial
    fun _ => trivial

lemma puts_removeStale : (removeStale p).Puts allows :=
  within_removeStale p (hother _ rfl (.inr rfl)) (hother _ rfl (.inr rfl)) trivial trivial trivial

variable (hinsert : ∀ record : Record, record.path = p → allows (.insert record))

include hinsert

lemma puts_develop (time : Instant) (size : Nat) : (e.develop p time size).Puts allows := by
  refine puts_bind (puts_request (hother _ rfl (.inr rfl))) fun a => ?_
  cases a with
  | none => trivial
  | some b =>
    refine puts_bind (puts_request (hother _ rfl (.inl rfl))) fun _ => ?_
    rw [describe]
    split
    · trivial
    · refine puts_bind (e.puts_runStages p hother b _ _) fun found => ?_
      simp only
      split
      · trivial
      · refine puts_bind (puts_request (hinsert _ rfl)) fun a => ?_
        cases a <;> trivial

lemma puts_annotate : (e.annotate exhausted p).Puts allows := by
  refine puts_bind (puts_request (hother _ rfl (.inr rfl))) fun info => ?_
  cases info with
  | none => exact puts_reject p hother
  | some info =>
    simp only
    split
    · exact puts_reject p hother
    · refine puts_bind (puts_request (hother _ rfl (.inr rfl))) fun type => ?_
      split
      · exact puts_reject p hother
      · split
        · exact within_abort.mpr (hother _ rfl (.inl rfl))
        · refine puts_bind (puts_request (hother _ rfl (.inr rfl))) fun recorded => ?_
          split
          · trivial
          · split
            · trivial
            · exact e.puts_develop p hother hinsert _ _

end

/-- **An item asks about no path but its own.** -/
theorem puts_process (item : Item) (hown : ∀ r : Request, r.IsOf item.path → allows r) :
    (e.process exhausted item).Puts allows := by
  have hother (r : Request) (_ : r.isInsert = false) (hr : r.IsOf item.path) : allows r := hown r hr
  obtain ⟨p, work⟩ := item
  cases work with
  | removeStale => exact puts_removeStale p hother
  | examine =>
    refine puts_bind (puts_request (hown _ (.inr rfl))) fun kind => ?_
    rcases kind with _ | (_ | _ | _ | _)
    · exact puts_examineMissing p hother
    · trivial
    · exact puts_bind (puts_request (hown _ (.inr rfl))) fun _ => trivial
    · refine puts_bind (puts_request (hown _ (.inr rfl))) fun type => ?_
      split
      · trivial
      · exact e.puts_annotate exhausted p hother fun record hpath =>
          hown _ (.inr (congrArg some hpath))
    · trivial

end Pipeline

/-- Only files with the extension of a picture are opened. -/
lemma FileTree.isCandidate_of_pictureType {t : FileTree} {p : Path}
    (h : t.pictureType p ≠ .notImage) : p.isCandidate = true := by
  rw [pictureType] at h
  split at h
  · exact absurd rfl h
  · rename_i hcandidate
    simpa using hcandidate

namespace Store

variable {files : FileTree} {may : (r : Request) → r.Answer → Prop} {s s' : Store}

/-- Whether all records are those of paths with the extension of a picture. -/
def OfCandidates (s : Store) : Prop :=
  ∃ t, s.pictures = some t ∧
    ∀ k row, t.find? k = some row → ∃ p : Path, p.isCandidate = true ∧ p.text = k

/-- Whether a request writes no record but those of paths with the extension of a picture. -/
def RecordsCandidates (r : Request) : Prop :=
  ∀ record, r = .insert record → record.path.isCandidate = true

lemma recordsCandidates_of_other {r : Request} (hr : r.isInsert = false) :
    RecordsCandidates r := by
  rintro record rfl
  exact nomatch hr

lemma OfCandidates.serves {r : Request} {a : r.Answer} (hr : RecordsCandidates r)
    (h : s.OfCandidates) (hserves : serves files may s r a s') : s'.OfCandidates := by
  obtain ⟨t, ht, hkeys⟩ := h
  have hsame (heq : s' = s) : s'.OfCandidates := heq ▸ ⟨t, ht, hkeys⟩
  cases r with
  | insert record =>
    obtain ⟨-, rfl⟩ := (serves_insert ht).mp hserves
    refine ⟨_, rfl, fun k row hrow => ?_⟩
    rw [Table.find?_insert] at hrow
    split at hrow
    · rename_i hk
      exact ⟨record.path, hr record rfl, hk.symm⟩
    · exact hkeys k row hrow
  | remove p =>
    obtain ⟨-, rfl⟩ := (serves_remove ht).mp hserves
    refine ⟨_, rfl, fun k row hrow => ?_⟩
    rw [Table.find?_erase] at hrow
    split at hrow
    · exact nomatch hrow
    · exact hkeys k row hrow
  | arm => exact hsame hserves
  | abort => exact a.elim
  | _ => exact hsame hserves.2

lemma OfCandidates.reaches {plan plan' : Plan Outcome}
    (hreach : Plan.Reaches (Store.serves files may) s plan s' plan')
    (hplan : plan.Puts RecordsCandidates) (h : s.OfCandidates) : s'.OfCandidates :=
  hreach.keeps (fun _ _ _ _ hr ht hserves => ht.serves hr hserves) hplan h

/-- What a store is that was written by processing items. -/
inductive Written : Store → Prop
  /-- At first it has no records. -/
  | empty (settings : Option (Table String)) : Written ⟨some Table.empty, settings⟩
  /-- Then some item is processed, perhaps not to its end. -/
  | item {s s' : Store} {plan : Plan Outcome} (files : FileTree)
      (may : (r : Request) → r.Answer → Prop) (e : Pipeline) (exhausted : Bool) (item : Item)
      (h : Written s)
      (hreach : Plan.Reaches (serves files may) s (e.process exhausted item) s' plan) : Written s'

/-- **Records are those of paths with the extension of a picture.** -/
theorem Written.ofCandidates (h : s.Written) : s.OfCandidates := by
  induction h with
  | empty settings => exact ⟨_, rfl, by simp⟩
  | @item s s' plan files may e exhausted item _ hreach ih =>
    obtain ⟨p, work⟩ := item
    cases work with
    | removeStale =>
      exact OfCandidates.reaches hreach
        (Pipeline.puts_removeStale p fun _ hr _ => recordsCandidates_of_other hr) ih
    | examine =>
      change Plan.Reaches _ s (e.examine exhausted p) s' plan at hreach
      rw [Pipeline.examine_eq, Plan.reaches_ask] at hreach
      rcases hreach with ⟨rfl, -⟩ | ⟨kind, _, ⟨-, rfl⟩, hrest⟩
      · exact ih
      cases kind with
      | none =>
        exact OfCandidates.reaches hrest
          (Pipeline.puts_examineMissing p fun _ hr _ => recordsCandidates_of_other hr) ih
      | some kind =>
        cases kind with
        | file =>
          rcases Plan.reaches_ask.mp hrest with ⟨rfl, -⟩ | ⟨type, _, ⟨htype, rfl⟩, hsniffed⟩
          · exact ih
          split at hsniffed
          · obtain ⟨rfl, -⟩ := Plan.reaches_done.mp hsniffed
            exact ih
          · -- only here may a record be written
            rename_i hpicture
            rw [htype] at hpicture
            refine OfCandidates.reaches hsniffed (e.puts_annotate exhausted p
              (fun _ hr _ => recordsCandidates_of_other hr) fun record hpath => ?_) ih
            rintro _ ⟨⟩
            rw [hpath]
            exact FileTree.isCandidate_of_pictureType hpicture
        | directory =>
          exact OfCandidates.reaches hrest
            ⟨recordsCandidates_of_other rfl, fun _ => trivial⟩ ih
        | link | other =>
          obtain ⟨rfl, -⟩ := Plan.reaches_done.mp hrest
          exact ih

end Store

namespace Simulation.World

/-- Carrying out a plan changes neither the files nor what the store refuses, nor the decoder. -/
lemma carryOut_frame {α : Type} (w : World) (plan : Plan α) (armed : Bool) :
    (w.carryOut armed plan).2.2.files = w.files ∧
      (w.carryOut armed plan).2.2.refused = w.refused ∧
      (w.carryOut armed plan).2.2.decoder = w.decoder := by
  induction plan generalizing w armed with
  | done a => exact ⟨rfl, rfl, rfl⟩
  | ask r next ih =>
    have hframe := w.reply_frame r
    rw [carryOut]
    generalize w.reply r = x at hframe
    obtain ⟨answer, w'⟩ := x
    cases answer with
    | answer a delay =>
      obtain ⟨hfiles, hrefused, hdecoder⟩ := ih a { w' with now := w'.now + delay } _
      exact ⟨hfiles.trans hframe.1, hrefused.trans hframe.2.1, hdecoder.trans hframe.2.2⟩
    | _ => exact hframe

/-- What a world makes of its store is what the plan does to it, as far as the plan gets. -/
lemma carryOut_reaches {α : Type} {w : World} (hrefused : w.refused = []) (plan : Plan α)
    (armed : Bool) : ∃ plan', Plan.Reaches (Store.serves w.files fun _ _ => True) w.store plan
      (w.carryOut armed plan).2.2.store plan' := by
  induction plan generalizing w armed with
  | done a => exact ⟨_, .refl⟩
  | ask r next ih =>
    obtain ⟨hfiles, hkept, -⟩ := w.reply_frame r
    rw [carryOut]
    generalize hreply : w.reply r = x at hfiles hkept
    obtain ⟨answer, w'⟩ := x
    cases answer with
    | answer a delay =>
      have hserves : Store.serves w.files (fun _ _ => True) w.store r a w'.store :=
        reply_serves hrefused hreply fun _ => trivial
      rw [← show w'.files = w.files from hfiles] at hserves ⊢
      exact (ih a (w := { w' with now := w'.now + delay }) (hkept.trans hrefused) _).imp
        fun plan' hrest => Plan.Reaches.head hserves hrest
    | _ =>
      have hsame := reply_store_of_no_answer (w := w) (r := r) (by simp [hreply])
      rw [hreply] at hsame
      refine ⟨.ask r next, ?_⟩
      rw [show w'.store = w.store from hsame]
      exact .refl

/-- A store stays one that was written by processing items when an item is processed. -/
lemma written_carryOut {w : World} (hrefused : w.refused = []) (h : w.store.Written) (e : Pipeline)
    (exhausted : Bool) (item : Item) (armed : Bool) :
    (w.carryOut armed (e.process exhausted item)).2.2.store.Written := by
  obtain ⟨plan, hreach⟩ := carryOut_reaches hrefused (e.process exhausted item) armed
  exact .item _ _ e exhausted item h hreach

end Simulation.World

end PictureIndex
