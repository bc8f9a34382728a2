import Mathlib.Data.List.Nodup
import Mathlib.Data.List.Perm.Basic
import PictureIndex.Store.Basic
/-!
# Stores with a table of pictures

What the requests to a store come to where its table of pictures is not missing.  Tables that answer
all look-ups alike are the same (`Table.ext_find?`).
-/

namespace PictureIndex

namespace Table

variable {α : Type} {t t' : Table α} {k : String} {v : α}

/-- The entries are the keys with their values. -/
lemma mem_entries : (k, v) ∈ t.entries ↔ t.find? k = some v := by
  have hfirst {e : String × α} (he : e ∈ t.entries) (hk : e.1 = k) :
      t.entries.find? (fun e => e.1 = k) = some e := by
    obtain ⟨before, after, hsplit⟩ := List.append_of_mem he
    have hbefore := List.pairwise_append.mp (hsplit ▸ t.ascending)
    rw [hsplit, List.find?_append, List.find?_eq_none.mpr fun x hx => ?_]
    · simp [hk]
    · have hlt := hbefore.2.2 x hx e List.mem_cons_self
      simpa [← hk] using hlt.ne
  rw [find?, Option.map_eq_some_iff]
  constructor
  · intro h
    exact ⟨_, hfirst h rfl, rfl⟩
  · rintro ⟨e, he, rfl⟩
    have hk : e.1 = k := by simpa using List.find?_some he
    exact hk ▸ List.mem_of_find?_eq_some he

/-- Tables with the same values are the same. -/
lemma ext_find? (h : ∀ k, t.find? k = t'.find? k) : t = t' := by
  have hnodup (t : Table α) : t.entries.Nodup :=
    t.ascending.imp fun hlt heq => hlt.ne (congrArg Prod.fst heq)
  have hperm : t.entries.Perm t'.entries := by
    refine (List.perm_ext_iff_of_nodup (hnodup t) (hnodup t')).mpr fun e => ?_
    obtain ⟨k, v⟩ := e
    rw [mem_entries, mem_entries, h]
  have hentries : t.entries = t'.entries :=
    hperm.eq_of_pairwise (fun a b _ _ hab hba => absurd (hab.trans hba) (Text.Before.irrefl _))
      t.ascending t'.ascending
  cases t
  cases t'
  congr

end Table

/-- A set is given by its words. -/
lemma WordSet.ext_keys {ws ws' : WordSet} (h : ∀ w, w ∈ ws.keys ↔ w ∈ ws'.keys) : ws = ws' := by
  refine Table.ext_find? fun w => ?_
  have hw : (ws.find? w).isSome ↔ (ws'.find? w).isSome := by
    rw [← Table.mem_keys, ← Table.mem_keys, h]
  cases hws : ws.find? w <;> cases hws' : ws'.find? w <;> simp [hws, hws'] at hw ⊢

namespace Store

/-- What comes of an attempt to change a store. -/
def attempt (s : Store) : Except Error Store → Except Error Unit × Store
  | .ok s' => (.ok (), s')
  | .error e => (.error e, s)

variable {s : Store} {t : Table Row}

lemma insert_eq (ht : s.pictures = some t) (r : Record) :
    s.insert r = .ok { s with pictures := some (t.insert r.path.text (rowOf r)) } := by
  simp [insert, putRow, pictureTable, ht, bind, Except.bind, pure, Except.pure]

lemma remove_eq (ht : s.pictures = some t) (p : Path) :
    s.remove p = .ok { s with pictures := some (t.erase p.text) } := by
  simp [remove, delete, pictureTable, ht, bind, Except.bind, pure, Except.pure, Except.map]

lemma lastModified?_eq (ht : s.pictures = some t) (p : Path) :
    s.lastModified? p = .ok ((t.find? p.text).bind fun row => Instant.ofMicros? row.micros) := by
  simp [lastModified?, pictureTable, ht, bind, Except.bind, pure, Except.pure]

lemma get_eq (ht : s.pictures = some t) (p : Path) :
    s.get p = match t.find? p.text with
      | none => .ok none
      | some row => (readRow p.text row).map some := by
  cases h : t.find? p.text with
  | none => simp [get, pictureTable, ht, h, bind, Except.bind, pure, Except.pure]
  | some row =>
    cases hrow : readRow p.text row <;>
      simp [get, pictureTable, ht, h, hrow, bind, Except.bind, pure, Except.pure, Except.map]

lemma all_eq (ht : s.pictures = some t) : s.all = .ok t.keys := by
  simp [all, pictureTable, ht, bind, Except.bind, pure, Except.pure]

lemma under_eq (ht : s.pictures = some t) {p : Path} (hzero : '\x00' ∉ directoryStart p.text) :
    s.under p = .ok (t.keys.filter fun k => (directoryStart p.text).isPrefixOf k.toList) := by
  simp [under, pictureTable, ht, bind, Except.bind, pure, Except.pure, hzero]

lemma setting?_eq {u : Table String} (hu : s.settings = some u) (key : String) :
    s.setting? key = .ok (u.find? key) := by
  simp [setting?, settingTable, hu, bind, Except.bind, pure, Except.pure]

lemma setSetting_eq {u : Table String} (hu : s.settings = some u) (key value : String) :
    s.setSetting key value = .ok { s with settings := some (u.insert key value) } := by
  simp [setSetting, settingTable, hu, bind, Except.bind, pure, Except.pure]

end Store

end PictureIndex
