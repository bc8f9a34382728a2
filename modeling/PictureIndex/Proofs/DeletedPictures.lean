import PictureIndex.Proofs.AnnotationOutcomes
import PictureIndex.Proofs.FullPass
import PictureIndex.Proofs.LawfulRecords
import PictureIndex.Proofs.StaleRemovals
/-!
# Pictures that are deleted

When nothing stands at a path any more, its extension tells whether a file was there or a directory.
Whether a file may be a picture is told by its extension too, but by another test, and by the path
at which the file was found and not by the one that the store spells.  Every path that passes the
one test passes the other, and so does its respelling (`Path.hasExtension_of_text_mem`); so a
deleted picture is never taken for a directory.

A store may have been written in many sessions, each with files, a configuration and backends of its
own, and each perhaps cut off in the middle (`Simulation.LeftBehind`).

* `deleted_picture_is_known_as_file`: what comes of looking at the path of a deleted picture that
  has a record, and of removing its record.
-/

namespace PictureIndex

namespace Simulation

open Log Session

/-- What a store is that sessions have left behind, one after the other, each perhaps cut off.
The first one has found no records, and nobody but the sessions has changed the store. -/
inductive LeftBehind : Store → Prop
  /-- At first there are no records. -/
  | empty {s : Store} (hempty : ∀ t ∈ s.pictures, t.keys = []) : LeftBehind s
  /-- Then there is another session, up to some moment. -/
  | session {world : World} (h : LeftBehind world.store) (c : Config) (backends : Backends)
    (gate : Option (Worker × Gate × Nat)) (moves : Nat → Move) (n : Nat)
    (hlegal : ∀ k < n, (moves k).Legal)
    (houtside : ∀ k < n, ∀ w ∈ (moves k).world?,
      w.store = ((starting world c backends gate).after moves k).world.store) :
    LeftBehind ((starting world c backends gate).after moves n).world.store

/-- **Sessions record no paths but those of pictures.** -/
theorem LeftBehind.candidates {s : Store} (h : LeftBehind s) :
    ∀ t ∈ s.pictures, ∀ k ∈ t.keys, (Path.ofText k).isCandidate = true := by
  induction h with
  | empty hempty =>
    intro t ht k hk
    rw [hempty t ht] at hk
    cases hk
  | @session world _ c backends gate moves n hlegal houtside ih =>
    intro t ht k hk
    obtain ⟨row, hrow⟩ := Option.isSome_iff_exists.mp (Table.mem_keys.mp hk)
    have hfind : ((starting world c backends gate).after moves n).world.row? (Path.ofText k) =
        some row := by
      rw [World.row?, ht, Option.bind_some, Path.text_ofText, hrow]
    rcases row?_after (fun k hk w hw => by rw [World.row?, World.row?, houtside k hk w hw]) hfind
      with hold | ⟨generation, record, hwrote, htext, -⟩
    · obtain ⟨t', ht', hold⟩ := Option.bind_eq_some_iff.mp hold
      rw [Path.text_ofText] at hold
      exact ih t' ht' k (Table.mem_keys.mpr (hold ▸ rfl))
    · rw [Path.text_ofText] at htext
      exact htext ▸ (lawful_of_written hlegal hwrote).candidate

end Simulation

/-- A path that is spelled like that of a picture has an extension. -/
lemma Path.hasExtension_of_text_mem {p : Path} (h : (ofText p.text).isCandidate = true) :
    p.hasExtension = true :=
  (hasExtension_respelled p).symm.trans (hasExtension_of_isCandidate h)

namespace Pipeline

open Plan

variable {e : Pipeline} {exhausted : Bool} {files : FileTree} {p : Path} {work : Work}
  {s s' : Store} {log log' : List Exchange} {outcome : Outcome}

/-- Where nothing stands at a path with an extension, every item of the path comes to the removal of
its record. -/
lemma runs_process_missing (hkind : files.kind? p = none) (hname : p.hasExtension = true) :
    Runs (Store.heard files) (s, log) (e.process exhausted ⟨p, work⟩) outcome (s', log') ↔
      Runs (Store.heard files) (s, log ++ [⟨.kind p, none⟩]) (removeRecord p) outcome
        (s', log') := by
  obtain ⟨next, hnext, hplan⟩ : ∃ next : (Request.kind p).Answer → Plan Outcome,
      next (none : Option EntryKind) = removeRecord p ∧
        e.process exhausted ⟨p, work⟩ = .ask (.kind p) next := by
    cases work with
    | examine => exact ⟨_, if_pos hname, e.examine_eq exhausted p⟩
    | removeStale => exact ⟨_, rfl, removeStale_eq p⟩
  rw [hplan, runs_heard_ask, ← hnext]
  constructor
  · rintro ⟨answer, a', ⟨rfl, rfl⟩ | ⟨hrefused, -⟩, hrest⟩
    · rw [hkind] at hrest
      exact hrest
    · exact hrefused.elim
  · exact fun hrest => ⟨none, s, .inl ⟨hkind.symm, rfl⟩, hrest⟩

/-- The removal of a record, if the store has records. -/
lemma heard_of_removeRecord {t : Table Row} (ht : s.pictures = some t)
    (hruns : Runs (Store.heard files) (s, log) (removeRecord p) outcome (s', log')) :
    ∃ answer, log' = log ++ [⟨.remove p, answer⟩] ∧
      ((answer = .ok () ∧ outcome = .removed ∧ Store.Alters s t p.text none s') ∨
        (∃ error, answer = .error error) ∧ outcome = .failed .store ∧ s' = s) := by
  rw [removeRecord_eq, runs_heard_ask] at hruns
  obtain ⟨answer, a', hanswer, hdone⟩ := hruns
  obtain ⟨rfl, hremove⟩ | ⟨⟨error, rfl⟩, rfl⟩ := Store.falters_remove.mp hanswer
  · obtain ⟨rfl, rfl, rfl⟩ := runs_heard_done.mp hdone
    rw [Store.remove_eq ht] at hremove
    obtain rfl := Except.ok.inj hremove
    exact ⟨_, rfl, .inl ⟨rfl, rfl, Store.alters_erase⟩⟩
  · obtain ⟨rfl, rfl, rfl⟩ := runs_heard_done.mp hdone
    exact ⟨_, rfl, .inr ⟨⟨error, rfl⟩, rfl, rfl⟩⟩

/-- **A deleted picture is known as a file.**  Every path with the extension of a picture has an
extension, and so has the path spelled by its text.  So take any store that sessions have left
behind, and any path at which nothing stands and whose text has a record.  An item that is to look
at the path joins the queue unless the path is excluded, and one that is to remove its record joins
in any case.  Whichever of them is processed, it looks at the path, asks for the removal of its
record, and never for the recorded paths below it.  Unless the store refuses, the outcome is that a
record was removed, and the rows are as before but for the one of the path, which is gone. -/
theorem deleted_picture_is_known_as_file :
    (∀ p : Path, p.isCandidate = true →
      p.hasExtension = true ∧ (Path.ofText p.text).hasExtension = true) ∧
    ∀ s, Simulation.LeftBehind s → ∀ t, s.pictures = some t →
      ∀ files : FileTree, ∀ p : Path, p.text ∈ t.keys → files.kind? p = none →
        (∀ scheduler : Scheduler, ⟨p, .removeStale⟩ ∈ scheduler.additions (.removeStale p) ∧
          (⟨p, .examine⟩ ∈ scheduler.additions (.submit p) ↔
            p.isExcluded scheduler.excludedPrefixes = false)) ∧
        ∀ (e : Pipeline) (exhausted : Bool) (work : Work),
          (∀ outcome s' log,
            Runs (Store.heard files) (s, []) (e.process exhausted ⟨p, work⟩) outcome (s', log) →
            asked log = [.kind p, .remove p] ∧
            ((outcome = .removed ∧ Store.Alters s t p.text none s') ∨
              (∃ error, ⟨.remove p, .error error⟩ ∈ log) ∧ outcome = .failed .store ∧ s' = s)) ∧
          ∃ s' log, Runs (Store.heard files) (s, []) (e.process exhausted ⟨p, work⟩) .removed
            (s', log) := by
  refine ⟨fun p hp => ?_, fun s hs t ht files p hp hkind => ⟨fun scheduler => ?_,
    fun e exhausted work => ?_⟩⟩
  · have hname := Path.hasExtension_of_isCandidate hp
    exact ⟨hname, (Path.hasExtension_respelled p).trans hname⟩
  · refine ⟨List.mem_singleton_self _, ?_⟩
    cases hexcluded : p.isExcluded scheduler.excludedPrefixes <;>
      simp [Scheduler.additions, Scheduler.admitted, hexcluded]
  · have hname := Path.hasExtension_of_text_mem (hs.candidates t ht p.text hp)
    refine ⟨fun outcome s' log hruns => ?_, ?_⟩
    · obtain ⟨answer, rfl, hend⟩ :=
        heard_of_removeRecord ht ((runs_process_missing hkind hname).mp hruns)
      refine ⟨rfl, ?_⟩
      obtain ⟨-, houtcome, hstore⟩ | ⟨⟨error, rfl⟩, houtcome, hstore⟩ := hend
      · exact .inl ⟨houtcome, hstore⟩
      · exact .inr ⟨⟨error, by simp⟩, houtcome, hstore⟩
    · have hremoved : Store.falters files s (.remove p) (Except.ok ())
          { s with pictures := some (t.erase p.text) } :=
        Store.falters_remove.mpr (.inl ⟨rfl, Store.remove_eq ht p⟩)
      have hruns : Runs (Store.heard files) (s, [] ++ [⟨.kind p, none⟩]) (removeRecord p) .removed
          ({ s with pictures := some (t.erase p.text) },
            [⟨.kind p, none⟩] ++ [⟨.remove p, Except.ok ()⟩]) := by
        rw [removeRecord_eq]
        exact runs_heard_ask.mpr ⟨Except.ok (), _, hremoved, .refl⟩
      exact ⟨_, _, (runs_process_missing hkind hname).mpr hruns⟩

open Simulation Simulation.Session

/-- A picture that was annotated in a session and is deleted. -/
theorem deleted_picture_is_known_as_file_later :
    let moves (k : Nat) : Move := (reachedInThreeWays[k]?).getD .deliver
    let s := ((starting twoReadable withoutFirst ⟨true, false⟩ none).after moves 25).world.store
    LeftBehind s ∧ (∃ t, s.pictures = some t ∧ pathB.text ∈ t.keys) ∧
      (⟨[]⟩ : FileTree).kind? pathB = none ∧
      ∃ s' log, Runs (Store.heard ⟨[]⟩) (s, []) (reader.process true ⟨pathB, .examine⟩) .removed
        (s', log) ∧ asked log = [.kind pathB, .remove pathB] := by
  intro moves s
  have hlegal : ∀ k < 25, (moves k).Legal := by decide +kernel
  have hnobody : ∀ k < 25, (moves k).world?.isNone = true := by decide +kernel
  have hleft : LeftBehind s := by
    refine .session (.empty (by rintro t ⟨⟩; rfl)) _ _ _ moves 25 hlegal fun k hk w hw => ?_
    simp [Option.isNone_iff_eq_none.mp (hnobody k hk)] at hw
  have hrow : ((starting twoReadable withoutFirst ⟨true, false⟩ none).after moves 25).world.row?
      pathB = some ⟨0, 16, "[\"dawn\",\"forest\"]"⟩ := by decide +kernel
  obtain ⟨t, ht, hfind⟩ := Option.bind_eq_some_iff.mp hrow
  have hp : pathB.text ∈ t.keys := Table.mem_keys.mpr (hfind ▸ rfl)
  have hkind : (⟨[]⟩ : FileTree).kind? pathB = none := by decide +kernel
  obtain ⟨-, hitems⟩ := deleted_picture_is_known_as_file.2 s hleft t ht ⟨[]⟩ pathB hp hkind
  obtain ⟨hends, s', log, hruns⟩ := hitems reader true .examine
  exact ⟨hleft, ⟨t, ht, hp⟩, hkind, s', log, hruns, (hends .removed s' log hruns).1⟩

end Pipeline

end PictureIndex
