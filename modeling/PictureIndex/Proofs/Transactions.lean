import PictureIndex.Proofs.StoreTables
import PictureIndex.Store.Open
/-!
# Operations statement by statement

The operations of a store are functions here, but the database carries them out in statements, any
of which it may refuse: a record is replaced by deleting the old row and adding the new one, and
between the two there is none.  What keeps the old record then is that both statements belong to one
transaction, which takes effect as a whole when it is committed.

`Attempt.run` carries an operation out in this way, whatever is refused.  It stops at the first
transaction that fails, so that those before it have taken effect and no other (`perform_prefix`).
An operation that succeeds is the function of the store (`Attempt.run_ok`); it does so if nothing
is refused (`Attempt.run_unrefused`), and if it fails then the store is as before
(`Attempt.run_error`).
-/

namespace PictureIndex.Store

/-! ## Statements and transactions -/

/-- A statement of the database. -/
inductive Statement
  /-- Creates the table of pictures unless it exists. -/
  | createPictures
  /-- Creates the table of settings unless it exists. -/
  | createSettings
  /-- Deletes the row of a picture, if there is one. -/
  | deletePicture (path : String)
  /-- Adds a row, whose path may not be there yet. -/
  | addPicture (path : String) (row : Row)
  /-- Adds a setting, or changes its value. -/
  | setValue (key value : String)
  /-- Ends a transaction. -/
  | commit
deriving DecidableEq, Repr

/-- What a statement does to the tables. -/
def Statement.run (s : Store) : Statement → Except Error Store
  | createPictures => .ok { s with pictures := some (s.pictures.getD Table.empty) }
  | createSettings => .ok { s with settings := some (s.settings.getD Table.empty) }
  | deletePicture path => (s.delete path).map (·.1)
  | addPicture path row => do
    let t ← s.pictureTable
    if t.contains path then throw (.database (.notUnique "image_annotations.path"))
    return { s with pictures := some (t.insert path row) }
  | setValue key value => s.setSetting key value
  | commit => .ok s

/-- What a statement does if it may be refused. -/
def Statement.tried (refused? : Statement → Option Error) (s : Store) (st : Statement) :
    Except Error Store :=
  match refused? st with
  | some e => .error e
  | none => st.run s

/-- Statements that take effect together or not at all. -/
abbrev Transaction := List Statement

/-- Carries out transactions one after the other, up to the first one that fails. -/
def perform (refused? : Statement → Option Error) :
    List Transaction → Store → Except Error Unit × Store
  | [], s => (.ok (), s)
  | x :: xs, s =>
    match x.foldlM (Statement.tried refused?) s with
    | .ok s => perform refused? xs s
    | .error e => (.error e, s)

section

variable {refused? : Statement → Option Error} {s s' : Store}

lemma Statement.run_of_tried {st : Statement} (h : st.tried refused? s = .ok s') :
    st.run s = .ok s' := by
  unfold tried at h
  split at h
  · cases h
  · exact h

/-- A transaction that is not refused does what its statements do. -/
lemma foldlM_run_of_tried {x : Transaction}
    (h : x.foldlM (Statement.tried refused?) s = .ok s') : x.foldlM Statement.run s = .ok s' := by
  induction x generalizing s with
  | nil => exact h
  | cons st x ih =>
    rw [List.foldlM_cons] at h ⊢
    cases hst : st.tried refused? s with
    | error e =>
      rw [hst] at h
      cases h
    | ok next =>
      rw [hst] at h
      rw [Statement.run_of_tried hst]
      exact ih h

/-- **The transactions before the first one that fails have taken effect, and no other.** -/
theorem perform_prefix (refused? : Statement → Option Error) (xs : List Transaction) (s : Store) :
    ∃ done, done <+: xs ∧ done.flatten.foldlM Statement.run s = .ok (perform refused? xs s).2 ∧
      ((perform refused? xs s).1 = .ok () ↔ done = xs) := by
  induction xs generalizing s with
  | nil => exact ⟨[], List.prefix_rfl, rfl, by simp [perform]⟩
  | cons x xs ih =>
    rw [perform]
    cases hx : x.foldlM (Statement.tried refused?) s with
    | error e => exact ⟨[], List.nil_prefix, rfl, by simp⟩
    | ok next =>
      obtain ⟨done, hbegun, hdone, hall⟩ := ih next
      refine ⟨x :: done, List.cons_prefix_cons.mpr ⟨rfl, hbegun⟩, ?_, ?_⟩
      · rw [List.flatten_cons, List.foldlM_append, foldlM_run_of_tried hx]
        exact hdone
      · simpa using hall

end

/-! ## Operations -/

/-- What the program asks of a store. -/
inductive Operation
  /-- Inserts a record, replacing any earlier one of its path. -/
  | insert (r : Record)
  /-- Removes the record of a path. -/
  | remove (p : Path)
  /-- Sets a setting. -/
  | setSetting (key value : String)
  /-- Creates the tables that are missing. -/
  | migrate
  /-- Closes the store and opens it again. -/
  | reopen

namespace Operation

variable {s : Store}

/-- What an operation on the store in a file is for the program. -/
def apply (file : Path) (s : Store) : Operation → Except Error Store
  | insert r => s.insert r
  | remove p => s.remove p
  | setSetting key value => s.setSetting key value
  | migrate => .ok s.migrate
  | reopen => .ok (s.reopen file)

/-- What an operation is for the database.  Only the two statements that replace a record are
one transaction; all others stand alone. -/
def transactions : Operation → List Transaction
  | insert r => [[.deletePicture r.path.text, .addPicture r.path.text (rowOf r), .commit]]
  | remove p => [[.deletePicture p.text, .commit]]
  | setSetting key value => [[.setValue key value, .commit]]
  | migrate | reopen => [[.createPictures, .commit], [.createSettings, .commit]]

/-- The store on which an operation is carried out: nothing is left of one in memory when it is
opened again. -/
def ground (file : Path) (s : Store) : Operation → Store
  | reopen => if isVolatile file then blank else s
  | _ => s

/-- Replacing a row is deleting it and adding the new one. -/
lemma insert_of_statements (s : Store) (path : String) (row : Row) :
    [.deletePicture path, .addPicture path row, .commit].foldlM Statement.run s =
      s.putRow path row := by
  cases ht : s.pictures with
  | none => simp [Statement.run, delete, putRow, pictureTable, ht, bind, Except.bind, Except.map]
  | some t =>
    have hgone : (t.erase path).contains path = false := by
      simp [Table.contains, Table.find?_erase]
    have hinsert : (t.erase path).insert path row = t.insert path row := by
      refine Table.ext_find? fun k => ?_
      rw [Table.find?_insert, Table.find?_insert, Table.find?_erase]
      split <;> rfl
    simp [Statement.run, delete, putRow, pictureTable, ht, hgone, hinsert, bind, Except.bind,
      pure, Except.pure, Except.map]

/-- The statements of an operation do what it is for the program. -/
lemma apply_of_statements (file : Path) (s : Store) (op : Operation) :
    op.transactions.flatten.foldlM Statement.run (op.ground file s) = op.apply file s := by
  cases op with
  | insert r => exact insert_of_statements s r.path.text (rowOf r)
  | remove p =>
    cases h : s.delete p.text <;>
      simp [transactions, ground, apply, Store.remove, Statement.run, h, bind, Except.bind,
        Except.map, pure, Except.pure]
  | setSetting key value =>
    cases h : s.setSetting key value <;>
      simp [transactions, ground, apply, Statement.run, h, bind, Except.bind, pure, Except.pure]
  | migrate => rfl
  | reopen =>
    rw [apply, Store.reopen, ground]
    split <;> rfl

/-- An operation that has begun and is not finished has done nothing yet, or it has created a table
that was there. -/
lemma begin_of_tables {op : Operation} {done : List Transaction} (hpictures : s.pictures.isSome)
    (hbegun : done <+: op.transactions)
    (hless : done ≠ op.transactions) : done.flatten.foldlM Statement.run s = .ok s := by
  obtain ⟨t, ht⟩ := Option.isSome_iff_exists.mp hpictures
  have hsingle {x : Transaction} (hbegun : done <+: [x]) (hless : done ≠ [x]) :
      done.flatten.foldlM Statement.run s = .ok s := by
    obtain rfl | ⟨rest, rfl, hrest⟩ := List.prefix_cons_iff.mp hbegun
    · rfl
    · exact absurd (congrArg (x :: ·) (List.prefix_nil.mp hrest)) hless
  have htables (hbegun : done <+: [[.createPictures, .commit], [.createSettings, .commit]])
      (hless : done ≠ [[.createPictures, .commit], [.createSettings, .commit]]) :
      done.flatten.foldlM Statement.run s = .ok s := by
    obtain rfl | ⟨rest, rfl, hrest⟩ := List.prefix_cons_iff.mp hbegun
    · rfl
    obtain rfl | ⟨last, rfl, hlast⟩ := List.prefix_cons_iff.mp hrest
    · cases s
      cases ht
      rfl
    · exact absurd (congrArg (_ :: _ :: ·) (List.prefix_nil.mp hlast)) hless
  cases op with
  | insert | remove | setSetting => exact hsingle hbegun hless
  | migrate | reopen => exact htables hbegun hless

end Operation

/-- An operation, and what the database says to the statements that it refuses. -/
structure Attempt where
  /-- What is attempted. -/
  operation : Operation
  /-- The statements that are refused, with the error. -/
  refused? : Statement → Option Error

namespace Attempt

variable {file : Path} {s s' : Store} {a : Attempt}

/-- The answer to an attempt and the store after it. -/
def run (file : Path) (s : Store) (a : Attempt) : Except Error Unit × Store :=
  perform a.refused? a.operation.transactions (a.operation.ground file s)

/-- **An operation that succeeds does to the store what it is for the program.** -/
theorem run_ok (h : a.run file s = (.ok (), s')) : a.operation.apply file s = .ok s' := by
  obtain ⟨done, -, hdone, hall⟩ := perform_prefix a.refused?
    a.operation.transactions (a.operation.ground file s)
  rw [run] at h
  rw [h] at hdone hall
  obtain rfl := hall.mp rfl
  rw [← Operation.apply_of_statements]
  exact hdone

/-- **If nothing is refused, an attempt comes to what the operation is for the program.** -/
theorem run_unrefused (h : ∀ st, a.refused? st = none) :
    a.run file s = s.attempt (a.operation.apply file s) := by
  have htried : Statement.tried a.refused? = Statement.run := by
    funext s st
    rw [Statement.tried, h]
  have hsingle {x : Transaction} (hx : a.operation.transactions = [x])
      (hground : a.operation.ground file s = s) :
      a.run file s = s.attempt (a.operation.apply file s) := by
    have happly := Operation.apply_of_statements file s a.operation
    rw [hx, hground, List.flatten_singleton] at happly
    rw [run, hx, hground, perform, htried, happly]
    cases a.operation.apply file s <;> rfl
  rcases a with ⟨_ | _ | _ | _ | _, refused?⟩
  case insert | remove | setSetting => exact hsingle rfl rfl
  case migrate => simp [run, Operation.transactions, perform, htried, Statement.run]; rfl
  case reopen =>
    rw [Operation.apply, Store.reopen, run, Operation.ground]
    split <;> simp [Operation.transactions, perform, htried, Statement.run] <;> rfl

/-- **An operation that fails on a store in a file leaves it as it was**, if no table is missing. -/
theorem run_error (hfile : isVolatile file = false) (hpictures : s.pictures.isSome)
    (h : (a.run file s).1 ≠ .ok ()) : (a.run file s).2 = s := by
  have hground : a.operation.ground file s = s := by
    cases a.operation <;> simp [Operation.ground, hfile]
  obtain ⟨done, hbegun, hdone, hall⟩ := perform_prefix a.refused?
    a.operation.transactions (a.operation.ground file s)
  rw [run] at h ⊢
  rw [hground] at h hdone hall ⊢
  have hless : done ≠ a.operation.transactions := fun heq => h (hall.mpr heq)
  rw [Operation.begin_of_tables hpictures hbegun hless] at hdone
  exact (Except.ok.inj hdone).symm

end Attempt

end PictureIndex.Store
