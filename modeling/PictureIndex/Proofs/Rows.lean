import PictureIndex.Proofs.Covenants
/-!
# How rows come and go

A row of the store is changed by a request about its text and by nothing else, unless somebody
outside touches it (`Session.row?_move`): a record that is written sets the row of its path, and
one that is removed erases it.
-/

namespace PictureIndex.Simulation

namespace World

variable {w : World} {p : Path} {r : Request}

/-- The row of a path in the store. -/
def row? (w : World) (p : Path) : Option Row := w.store.pictures.bind (·.find? p.text)

/-- A store that is to be changed refuses, or does as told. -/
lemma update_cases (w : World) (c : StoreCall) (f : Store → Except Error Store) :
    (∃ e, w.update c f = (.error e, w)) ∨
      ∃ s, f w.store = .ok s ∧ w.update c f = (.ok (), { w with store := s }) := by
  rw [update, query]
  split
  · rename_i s hs
    split at hs
    · cases hs
    · exact .inr ⟨s, hs, rfl⟩
  · exact .inl ⟨_, rfl⟩

/-- Where the table of pictures is missing, no record is written. -/
lemma pictures_of_insert {s s' : Store} {record : Record} (h : s.insert record = .ok s') :
    ∃ t, s.pictures = some t ∧
      s' = { s with pictures := some (t.insert record.path.text (Store.rowOf record)) } := by
  cases ht : s.pictures with
  | none => simp [Store.insert, Store.putRow, Store.pictureTable, ht, bind, Except.bind] at h
  | some t =>
    rw [Store.insert_eq ht] at h
    exact ⟨t, rfl, (Except.ok.inj h).symm⟩

lemma pictures_of_remove {s s' : Store} {p : Path} (h : s.remove p = .ok s') :
    ∃ t, s.pictures = some t ∧ s' = { s with pictures := some (t.erase p.text) } := by
  cases ht : s.pictures with
  | none =>
    simp [Store.remove, Store.delete, Store.pictureTable, ht, bind, Except.bind, Except.map] at h
  | some t =>
    rw [Store.remove_eq ht] at h
    exact ⟨t, rfl, (Except.ok.inj h).symm⟩

/-- Requests about paths with other texts leave the row of a path as it is. -/
lemma row?_reply (h : ∀ q, r.path? = some q → q.text ≠ p.text) :
    (w.reply r).2.row? p = w.row? p := by
  cases r with
  | insert record =>
    change (w.update .insert (·.insert record)).2.row? p = _
    rcases w.update_cases .insert (·.insert record) with ⟨e, hkept⟩ | ⟨s, hs, hset⟩
    · rw [hkept]
    · obtain ⟨t, ht, rfl⟩ := pictures_of_insert hs
      simp [hset, row?, ht, Table.find?_insert, (h record.path rfl).symm]
  | remove q =>
    change (w.update .remove (·.remove q)).2.row? p = _
    rcases w.update_cases .remove (·.remove q) with ⟨e, hkept⟩ | ⟨s, hs, hset⟩
    · rw [hkept]
    · obtain ⟨t, ht, rfl⟩ := pictures_of_remove hs
      simp [hset, row?, ht, Table.find?_erase, (h q rfl).symm]
  | decode q =>
    rw [row?, row?, reply_store_of_outward rfl]
  | _ => rfl

/-- A record that is written sets the row of its path. -/
lemma row?_insert {record : Record} {delay : Nat} {w' : World}
    (h : w.reply (.insert record) = (.answer (.ok ()) delay, w')) :
    w'.row? record.path = some (Store.rowOf record) := by
  change (Reply.answer (w.update .insert (·.insert record)).1 0,
    (w.update .insert (·.insert record)).2) = _ at h
  rcases w.update_cases .insert (·.insert record) with ⟨e, hkept⟩ | ⟨s, hs, hset⟩
  · rw [hkept] at h
    exact nomatch (Reply.answer.inj (Prod.mk.inj h).1).1
  · obtain ⟨t, ht, rfl⟩ := pictures_of_insert hs
    rw [hset] at h
    obtain ⟨-, rfl⟩ := Prod.mk.inj h
    simp [row?, Table.find?_insert]

/-- A record that is removed leaves no row. -/
lemma row?_remove {q : Path} (hq : q.text = p.text)
    (h : (w.update .remove (·.remove q)).1 = .ok ()) : (w.reply (.remove q)).2.row? p = none := by
  change (w.update .remove (·.remove q)).2.row? p = none
  rcases w.update_cases .remove (·.remove q) with ⟨e, hkept⟩ | ⟨s, hs, hset⟩
  · simp [hkept] at h
  · obtain ⟨t, ht, rfl⟩ := pictures_of_remove hs
    simp [hset, row?, Table.find?_erase, hq]

/-- The row that a path has after a request is the one it had before, or the one of a record that
was written. -/
lemma row?_reply_some {row : Row} (h : (w.reply r).2.row? p = some row) :
    w.row? p = some row ∨ ∃ record, r = .insert record ∧ record.path.text = p.text ∧
      row = Store.rowOf record ∧ (w.update .insert (·.insert record)).1 = .ok () := by
  by_cases hother : ∀ q, r.path? = some q → q.text ≠ p.text
  · rw [row?_reply hother] at h
    exact .inl h
  cases r with
  | insert record =>
    change (w.update .insert (·.insert record)).2.row? p = some row at h
    rcases w.update_cases .insert (·.insert record) with ⟨e, hkept⟩ | ⟨s, hs, hset⟩
    · rw [hkept] at h
      exact .inl h
    · obtain ⟨t, ht, rfl⟩ := pictures_of_insert hs
      have htext : record.path.text = p.text := by
        by_contra hne
        exact hother (by rintro q ⟨⟩; exact hne)
      simp only [hset, row?, Option.bind_some, Table.find?_insert, htext, if_true] at h
      exact .inr ⟨record, rfl, htext, (Option.some.inj h).symm, by rw [hset]⟩
  | remove q =>
    change (w.update .remove (·.remove q)).2.row? p = some row at h
    rcases w.update_cases .remove (·.remove q) with ⟨e, hkept⟩ | ⟨s, hs, hset⟩
    · rw [hkept] at h
      exact .inl h
    · obtain ⟨t, ht, rfl⟩ := pictures_of_remove hs
      simp only [hset, row?, Option.bind_some, Table.find?_erase] at h
      split at h
      · cases h
      · rw [row?, ht]
        exact .inl h
  | decode q =>
    rw [row?, reply_store_of_outward rfl] at h
    exact .inl h
  | _ => exact .inl h

end World

namespace Session

variable {s : Session} {p : Path}

/-- A row changes only by a request, or from outside. -/
lemma row?_move {v : Move} (houtside : ∀ w ∈ v.world?, w.row? p = s.world.row? p)
    (hrequest : ∀ task r, s.put? v = some (task, r) →
      (s.world.reply r).2.row? p = s.world.row? p) :
    (s.move v).world.row? p = s.world.row? p :=
  world_move (R := fun w => w.row? p = s.world.row? p) houtside hrequest fun _ => rfl

end Session

end PictureIndex.Simulation
