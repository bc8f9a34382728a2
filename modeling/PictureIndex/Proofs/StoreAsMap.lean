import Mathlib.Data.List.Induction
import PictureIndex.Proofs.JsonStrings
import PictureIndex.Proofs.PathTexts
import PictureIndex.Proofs.Transactions
/-!
# The store is a finite map

Whatever has been attempted on a store, and whatever the database has refused, it answers as a map
that never heard of rows, JSON texts and statements would: the record of a path is the one that was
inserted last since it was last removed, and the value of a setting is the one it was set to last,
where only those operations count that succeeded.

The map is the history of these operations (`lastRecord?`, `lastValue?`).  `Reflects` relates the
tables to it, row by row; an attempt keeps the relation (`Reflects.run`), and what the store is
asked is then answered from the history.  For this the encodings have to be exact: `readRow_rowOf`
says that a row gives back the record it was made from, its time rounded down to the microsecond.

* `answers_as_a_map`: the answers of a store after any attempts, and what one more attempt changes.
-/

namespace PictureIndex

/-! ## Records that rows can hold -/

namespace Record

/-- What a record has to be like for a row to hold all of it. -/
structure Storable (r : Record) : Prop where
  /-- Its path is UTF-8. -/
  path : r.path.IsText
  /-- Its size is a signed 64-bit number. -/
  size : r.sizeBytes.toNat < 0x8000000000000000
  /-- Its time is representable and not in a leap second. -/
  time : r.lastModified.IsOrdinary

/-- The record with its time rounded down to the microsecond. -/
def kept (r : Record) : Record :=
  { r with lastModified := ⟨r.lastModified.secs, r.lastModified.nanos / 1000 * 1000⟩ }

end Record

lemma Path.IsText.eq_ofText_iff {p : Path} (hp : p.IsText) {s : String} :
    p = ofText s ↔ s = p.text := by
  constructor
  · rintro rfl
    rw [text_ofText]
  · rintro rfl
    exact hp.symm

namespace Store

lemma toNat_signedSize {n : UInt64} (h : n.toNat < 0x8000000000000000) :
    UInt64.ofNat (signedSize n).toNat = n := by
  rw [signedSize, if_pos h, Int.toNat_natCast, UInt64.ofNat_toNat]

/-- **A row gives back the record it was made from**, its time rounded down to the microsecond. -/
theorem readRow_rowOf {r : Record} (h : r.Storable) :
    readRow r.path.text (rowOf r) = .ok r.kept := by
  have htime : Instant.ofMicros? (rowOf r).micros = some r.kept.lastModified :=
    Instant.ofMicros?_micros h.time
  have hwords : readWords? (rowOf r).annotations = some r.annotations :=
    readWords?_writeStrings r.annotations
  have hsize : UInt64.ofNat (rowOf r).size.toNat = r.sizeBytes := toNat_signedSize h.size
  have hpath : Path.ofText r.path.text = r.path := h.path
  simp only [readRow, htime, hwords, hsize, hpath]
  rfl

/-! ## Histories -/

namespace Operation

/-- What an operation makes of the record of a path, if it is about this path. -/
def record? (p : Path) : Operation → Option (Option Record)
  | insert r => if r.path = p then some (some r) else none
  | remove q => if q = p then some none else none
  | setSetting .. | migrate | reopen => none

/-- What an operation makes of a setting, if it is about this one. -/
def value? (key : String) : Operation → Option String
  | setSetting k value => if k = key then some value else none
  | insert _ | remove _ | migrate | reopen => none

/-- What an operation has to be like for the store to hold all it is told. -/
def Storable : Operation → Prop
  | insert r => r.Storable
  | remove p => p.IsText
  | setSetting .. | migrate | reopen => True

end Operation

/-- The record that was inserted last for a path since it was last removed. -/
def lastRecord? (p : Path) (history : List Operation) : Option Record :=
  (history.filterMap (·.record? p)).getLast?.join

/-- The value to which a setting was set last. -/
def lastValue? (key : String) (history : List Operation) : Option String :=
  (history.filterMap (·.value? key)).getLast?

section

variable {p : Path} {key : String} {history : List Operation} {op : Operation}

lemma lastRecord?_concat :
    lastRecord? p (history ++ [op]) = (op.record? p).getD (lastRecord? p history) := by
  rw [lastRecord?, lastRecord?, List.filterMap_append, List.filterMap_cons, List.filterMap_nil]
  cases op.record? p <;> simp

lemma lastValue?_concat :
    lastValue? key (history ++ [op]) = (op.value? key).or (lastValue? key history) := by
  rw [lastValue?, lastValue?, List.filterMap_append, List.filterMap_cons, List.filterMap_nil]
  cases op.value? key <;> simp

/-- The last record of a path was inserted at this path. -/
lemma of_lastRecord? {r : Record} (h : lastRecord? p history = some r) :
    .insert r ∈ history ∧ r.path = p := by
  rw [lastRecord?, Option.join_eq_some_iff] at h
  obtain ⟨op, hop, hr⟩ := List.mem_filterMap.mp (List.mem_of_getLast? h)
  cases op with
  | insert r' =>
    simp only [Operation.record?, Option.ite_none_right_eq_some, Option.some.injEq] at hr
    obtain ⟨hpath, rfl⟩ := hr
    exact ⟨hop, hpath⟩
  | remove q => simp [Operation.record?] at hr
  | setSetting | migrate | reopen => simp [Operation.record?] at hr

end

/-! ## Tables that reflect a history -/

/-- Whether a store holds what its history says. -/
structure Reflects (s : Store) (history : List Operation) : Prop where
  /-- The history tells the store nothing that it cannot hold. -/
  storable : ∀ op ∈ history, op.Storable
  /-- The pictures are the last records. -/
  pictures : ∃ t, s.pictures = some t ∧
    ∀ path, t.find? path = (lastRecord? (Path.ofText path) history).map rowOf
  /-- The settings are the last values. -/
  settings : ∃ u, s.settings = some u ∧ ∀ key, u.find? key = lastValue? key history

namespace Reflects

variable {s : Store} {history : List Operation} {p : Path} {op : Operation}

/-- A new store reflects that nothing has happened. -/
lemma new : Store.new.Reflects [] where
  storable := nofun
  pictures := ⟨Table.empty, rfl, fun _ => rfl⟩
  settings := ⟨Table.empty, rfl, fun _ => rfl⟩

/-! ### Operations -/

/-- Operations that are about no picture and no setting leave the store as it is. -/
lemma migrate_eq (h : s.Reflects history) : s.migrate = s := by
  obtain ⟨t, ht, -⟩ := h.pictures
  obtain ⟨u, hu, -⟩ := h.settings
  cases s
  cases ht
  cases hu
  rfl

/-- **An operation that is carried out becomes the last one of the history.** -/
theorem apply {file : Path} (hfile : isVolatile file = false) (h : s.Reflects history)
    (hop : op.Storable) :
    ∃ s', op.apply file s = .ok s' ∧ s'.Reflects (history ++ [op]) := by
  have hstorable : ∀ x ∈ history ++ [op], x.Storable := by
    simp only [List.mem_append, List.mem_singleton]
    rintro x (hx | rfl)
    · exact h.storable x hx
    · exact hop
  obtain ⟨t, ht, hfind⟩ := h.pictures
  obtain ⟨u, hu, hvalue⟩ := h.settings
  -- an operation on one table, and what it does not say about the other one
  have hsame (hnone : ∀ p, op.record? p = none) : ∃ t, s.pictures = some t ∧
      ∀ path, t.find? path = (lastRecord? (Path.ofText path) (history ++ [op])).map rowOf :=
    ⟨t, ht, fun path => by rw [lastRecord?_concat, hnone, Option.getD_none, hfind]⟩
  have hkeep (hnone : ∀ key, op.value? key = none) : ∃ u, s.settings = some u ∧
      ∀ key, u.find? key = lastValue? key (history ++ [op]) :=
    ⟨u, hu, fun key => by rw [lastValue?_concat, hnone, Option.none_or, hvalue]⟩
  cases op with
  | insert r =>
    refine ⟨_, insert_eq ht r, hstorable, ⟨_, rfl, fun path => ?_⟩, hkeep fun _ => rfl⟩
    simp only [Table.find?_insert, lastRecord?_concat, Operation.record?, hop.path.eq_ofText_iff,
      hfind]
    split <;> rfl
  | remove q =>
    refine ⟨_, remove_eq ht q, hstorable, ⟨_, rfl, fun path => ?_⟩, hkeep fun _ => rfl⟩
    have hq : q.IsText := hop
    simp only [Table.find?_erase, lastRecord?_concat, Operation.record?, hq.eq_ofText_iff, hfind]
    split <;> rfl
  | setSetting k value =>
    refine ⟨_, setSetting_eq hu k value, hstorable, hsame fun _ => rfl, ⟨_, rfl, fun key => ?_⟩⟩
    simp only [Table.find?_insert, lastValue?_concat, Operation.value?, eq_comm (a := k), hvalue]
    split <;> rfl
  | migrate => exact ⟨s, congrArg _ h.migrate_eq, hstorable, hsame fun _ => rfl, hkeep fun _ => rfl⟩
  | reopen =>
    refine ⟨s, ?_, hstorable, hsame fun _ => rfl, hkeep fun _ => rfl⟩
    rw [Operation.apply, Store.reopen, hfile, h.migrate_eq]
    rfl

/-- **An attempt keeps the relation**, be it granted or refused. -/
theorem run {file : Path} (hfile : isVolatile file = false) (h : s.Reflects history) {a : Attempt}
    (ha : a.operation.Storable) {answer : Except Error Unit} {s' : Store}
    (hrun : a.run file s = (answer, s')) :
    (answer = .ok () ∧ a.operation.apply file s = .ok s' ∧
      s'.Reflects (history ++ [a.operation])) ∨ ((∃ e, answer = .error e) ∧ s' = s) := by
  cases answer with
  | ok _ =>
    have happly := Attempt.run_ok hrun
    obtain ⟨s'', hs'', hreflects⟩ := h.apply hfile ha
    obtain rfl := Except.ok.inj (happly.symm.trans hs'')
    exact .inl ⟨rfl, happly, hreflects⟩
  | error e =>
    obtain ⟨t, ht, -⟩ := h.pictures
    have hsame := Attempt.run_error (a := a) hfile (Option.isSome_of_eq_some ht) (by simp [hrun])
    rw [hrun] at hsame
    exact .inr ⟨⟨e, rfl⟩, hsame⟩

/-! ### Answers -/

/-- **A record comes back as it was inserted last**, with its time rounded down. -/
theorem get (h : s.Reflects history) (hp : p.IsText) :
    s.get p = .ok ((lastRecord? p history).map Record.kept) := by
  obtain ⟨t, ht, hfind⟩ := h.pictures
  have hrow := hfind p.text
  rw [show Path.ofText p.text = p from hp] at hrow
  rw [get_eq ht, hrow]
  cases hlast : lastRecord? p history with
  | none => rfl
  | some r =>
    obtain ⟨hmem, rfl⟩ := of_lastRecord? hlast
    rw [Option.map_some, Option.map_some]
    simp only [readRow_rowOf (h.storable _ hmem)]
    rfl

lemma lastModified? (h : s.Reflects history) (hp : p.IsText) :
    s.lastModified? p = .ok ((lastRecord? p history).map (·.kept.lastModified)) := by
  obtain ⟨t, ht, hfind⟩ := h.pictures
  have hrow := hfind p.text
  rw [show Path.ofText p.text = p from hp] at hrow
  rw [lastModified?_eq ht, hrow]
  cases hlast : lastRecord? p history with
  | none => rfl
  | some r =>
    obtain ⟨hmem, -⟩ := of_lastRecord? hlast
    exact congrArg Except.ok (Instant.ofMicros?_micros (h.storable _ hmem).time)

lemma all (h : s.Reflects history) : ∃ paths, s.all = .ok paths ∧ paths.Pairwise Text.Before ∧
    ∀ path, path ∈ paths ↔ ∃ r, s.get (Path.ofText path) = .ok (some r) := by
  obtain ⟨t, ht, hfind⟩ := h.pictures
  refine ⟨t.keys, all_eq ht, t.keys_ascending, fun path => ?_⟩
  rw [Table.mem_keys, hfind, h.get (Path.isText_ofText path), Option.isSome_map]
  cases lastRecord? (Path.ofText path) history <;> simp

lemma setting? (h : s.Reflects history) (key : String) :
    s.setting? key = .ok (lastValue? key history) := by
  obtain ⟨u, hu, hvalue⟩ := h.settings
  rw [setting?_eq hu, hvalue]

end Reflects

/-! ## Sequences of attempts -/

/-- An attempt on a store, whose history grows if it succeeds. -/
def advance (file : Path) (now : Store × List Operation) (a : Attempt) : Store × List Operation :=
  match a.run file now.1 with
  | (.ok _, s) => (s, now.2 ++ [a.operation])
  | (.error _, s) => (s, now.2)

/-- The store that began anew in a file after a sequence of attempts, and the operations that
succeeded. -/
def follow (file : Path) (attempts : List Attempt) : Store × List Operation :=
  attempts.foldl (advance file) (new, [])

section

variable {file : Path} {attempts : List Attempt} {s : Store} {history : List Operation}

lemma reflects_advance (hfile : isVolatile file = false) (h : s.Reflects history) {a : Attempt}
    (ha : a.operation.Storable) :
    (advance file (s, history) a).1.Reflects (advance file (s, history) a).2 := by
  obtain ⟨answer, s', hrun⟩ : ∃ answer s', a.run file s = (answer, s') := ⟨_, _, rfl⟩
  rw [advance, hrun]
  obtain ⟨rfl, -, hreflects⟩ | ⟨⟨e, rfl⟩, rfl⟩ := h.run hfile ha hrun
  · exact hreflects
  · exact h

lemma reflects_follow (hfile : isVolatile file = false)
    (hattempts : ∀ a ∈ attempts, a.operation.Storable) :
    (follow file attempts).1.Reflects (follow file attempts).2 := by
  rw [follow]
  induction attempts using List.reverseRecOn with
  | nil => exact .new
  | append_singleton attempts a ih =>
    rw [List.foldl_concat]
    simp only [List.mem_append, List.mem_singleton] at hattempts
    exact reflects_advance hfile (ih fun x hx => hattempts x (.inl hx)) (hattempts a (.inr rfl))

/-- **The store is a finite map.**  Take a store that begins in a file, and any attempts on it that
tell it nothing that it cannot hold, of which the database may refuse any statement.  The history of
those that have succeeded decides what it answers:

* the record of a path is the last one inserted since it was last removed, with its time rounded
  down to the microsecond, and the recorded time is that of this record;
* the paths that have a record are listed in ascending order of their bytes;
* a setting has the value to which it was set last.

Whatever is attempted next succeeds if no statement is refused, and if it fails, the store is as
before.  Migrating and opening again leave it as it is, and any other operation leaves all paths and
settings alone but its own. -/
theorem answers_as_a_map (hfile : isVolatile file = false)
    (hattempts : ∀ a ∈ attempts, a.operation.Storable)
    (hfollow : follow file attempts = (s, history)) :
    (∀ p : Path, p.IsText →
      s.get p = .ok ((lastRecord? p history).map Record.kept) ∧
      s.lastModified? p = (s.get p).map (·.map (·.lastModified))) ∧
    (∃ paths, s.all = .ok paths ∧ paths.Pairwise Text.Before ∧
      ∀ path, path ∈ paths ↔ ∃ r, s.get (Path.ofText path) = .ok (some r)) ∧
    (∀ key, s.setting? key = .ok (lastValue? key history)) ∧
    ∀ a : Attempt, a.operation.Storable → ∀ answer s', a.run file s = (answer, s') →
      (answer = .ok () → a.operation.apply file s = .ok s') ∧
      ((∀ st, a.refused? st = none) → answer = .ok ()) ∧
      ((∃ e, answer = .error e) → s' = s) ∧
      (a.operation = .migrate ∨ a.operation = .reopen → s' = s) ∧
      (∀ p : Path, p.IsText → a.operation.record? p = none →
        s'.get p = s.get p ∧ s'.lastModified? p = s.lastModified? p) ∧
      ∀ key, a.operation.value? key = none → s'.setting? key = s.setting? key := by
  have h : s.Reflects history := by
    have h := reflects_follow hfile hattempts
    rwa [hfollow] at h
  refine ⟨fun p hp => ⟨h.get hp, ?_⟩, h.all, h.setting?, fun a ha answer s' hrun => ?_⟩
  · rw [h.lastModified? hp, h.get hp, Except.map, Option.map_map]
    rfl
  obtain ⟨rfl, happly, h'⟩ | ⟨⟨e, rfl⟩, rfl⟩ := h.run hfile ha hrun
  · refine ⟨fun _ => happly, fun _ => rfl, by simp, ?_, fun p hp hother => ⟨?_, ?_⟩,
      fun key hother => ?_⟩
    · rintro (htables | htables) <;> rw [htables] at happly
      · exact (Except.ok.inj happly).symm.trans h.migrate_eq
      · rw [Operation.apply, reopen, hfile] at happly
        exact (Except.ok.inj happly).symm.trans h.migrate_eq
    · rw [h'.get hp, h.get hp, lastRecord?_concat, hother, Option.getD_none]
    · rw [h'.lastModified? hp, h.lastModified? hp, lastRecord?_concat, hother, Option.getD_none]
    · rw [h'.setting?, h.setting?, lastValue?_concat, hother, Option.none_or]
  · refine ⟨by simp, fun hgranted => ?_, fun _ => rfl, fun _ => rfl, fun _ _ _ => ⟨rfl, rfl⟩,
      fun _ _ => rfl⟩
    obtain ⟨s'', happly, -⟩ := h.apply hfile ha
    rw [Attempt.run_unrefused hgranted, happly] at hrun
    exact congrArg Prod.fst hrun.symm

end

/-- A record from before 1970, of the greatest size, with words that need escapes. -/
def demanding : Record where
  path := .ofText "/pics/ä.png"
  lastModified := ⟨-1, 999999999⟩
  sizeBytes := 9223372036854775807
  annotations := .ofList ["\"quoted\"", "back\\slash", "two\nlines", "\x01", "straße"]

/-- Attempts on a store: the record is inserted, and a later replacement deletes its row but cannot
add the new one.  Another record is inserted and removed, and the store is opened again. -/
def eventful : List Attempt :=
  [⟨.insert demanding, fun _ => none⟩,
    ⟨.setSetting "limit" "10", fun _ => none⟩,
    ⟨.insert { demanding with annotations := Table.empty }, fun
      | .addPicture .. => some (.database .cannotOpen)
      | _ => none⟩,
    ⟨.insert { demanding with path := .ofText "/pics/b.png" }, fun _ => none⟩,
    ⟨.setSetting "limit" "20", fun _ => none⟩,
    ⟨.remove (.ofText "/pics/b.png"), fun _ => none⟩,
    ⟨.reopen, fun _ => none⟩]

/-- The file in which all this happens. -/
def indexFile : Path := .ofText "/data/index.db"

/-- The demanding record is there after the eventful attempts, in all its words. -/
theorem answers_as_a_map_eventful :
    ∃ r, (follow indexFile eventful).1.get demanding.path = .ok (some r) ∧
      (r.path, r.lastModified, r.sizeBytes, r.annotations.keys) =
        (demanding.path, ⟨-1, 999999000⟩, 9223372036854775807,
          ["\x01", "\"quoted\"", "back\\slash", "straße", "two\nlines"]) ∧
      (follow indexFile eventful).1.setting? "limit" = .ok (some "20") := by
  have hfile : isVolatile indexFile = false := by decide +kernel
  have hpath : demanding.path.IsText := by decide +kernel
  have hdemanding : demanding.Storable := ⟨hpath, by decide, by decide⟩
  have hstorable : ∀ a ∈ eventful, a.operation.Storable := by
    simp only [eventful, List.forall_mem_cons, List.not_mem_nil, false_implies, implies_true]
    exact ⟨hdemanding, trivial, ⟨hpath, hdemanding.size, hdemanding.time⟩,
      ⟨Path.isText_ofText _, hdemanding.size, hdemanding.time⟩, trivial, Path.isText_ofText _,
      trivial, trivial⟩
  obtain ⟨hget, -, hsetting, -⟩ := answers_as_a_map hfile hstorable (Prod.eta _).symm
  have hlast : ((lastRecord? demanding.path (follow indexFile eventful).2).map fun r =>
      (r.path, r.kept.lastModified, r.sizeBytes, r.annotations.keys)) =
      some (demanding.path, ⟨-1, 999999000⟩, 9223372036854775807,
        ["\x01", "\"quoted\"", "back\\slash", "straße", "two\nlines"]) := by
    decide +kernel
  have hvalue : lastValue? "limit" (follow indexFile eventful).2 = some "20" := by
    decide +kernel
  obtain ⟨r, hr, hfields⟩ := Option.map_eq_some_iff.mp hlast
  refine ⟨r.kept, ?_, hfields, ?_⟩
  · rw [(hget _ hpath).1, hr]
    rfl
  · rw [hsetting, hvalue]

end Store

end PictureIndex
