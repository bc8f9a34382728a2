import PictureIndex.Text.Order
/-!
# Tables with text keys

A finite map kept as its entries in strictly ascending order of keys.  The order is part of the
type, so that listing a table is reading its entries.  A set of words is a table without values.

The small lemmas say what each operation does to look-ups; nothing else needs to know how the
entries are stored.
-/

namespace PictureIndex

/-- A finite map from texts to `α`. -/
structure Table (α : Type) where
  /-- Keys with their values. -/
  entries : List (String × α)
  /-- Each key comes before all later ones. -/
  ascending : entries.Pairwise fun a b => Text.Before a.1 b.1

namespace Table

variable {α : Type}

/-- The table with no keys. -/
def empty : Table α := ⟨[], .nil⟩

instance : Inhabited (Table α) := ⟨empty⟩

/-- The keys in ascending order. -/
def keys (t : Table α) : List String := t.entries.map (·.1)

/-- Number of keys. -/
def size (t : Table α) : Nat := t.entries.length

/-- The value of a key. -/
def find? (t : Table α) (k : String) : Option α :=
  (t.entries.find? (fun e => e.1 = k)).map (·.2)

/-- Whether the key has a value. -/
def contains (t : Table α) (k : String) : Bool := (t.find? k).isSome

/-! ## Insertion -/

/-- The entries with `k` set to `v`. -/
def put (k : String) (v : α) : List (String × α) → List (String × α)
  | [] => [(k, v)]
  | e :: es =>
    if e.1 = k then (k, v) :: es
    else if Text.Before e.1 k then e :: put k v es
    else (k, v) :: e :: es

theorem mem_put {k : String} {v : α} {es : List (String × α)} {e : String × α}
    (h : e ∈ put k v es) : e = (k, v) ∨ e ∈ es := by
  induction es with
  | nil => simpa [put] using h
  | cons x xs ih =>
    unfold put at h
    split at h
    · rcases List.mem_cons.1 h with h | h
      · exact .inl h
      · exact .inr (List.mem_cons_of_mem _ h)
    · split at h
      · rcases List.mem_cons.1 h with h | h
        · exact .inr (h ▸ List.mem_cons_self)
        · exact (ih h).imp id (List.mem_cons_of_mem _)
      · rcases List.mem_cons.1 h with h | h
        · exact .inl h
        · exact .inr h

theorem ascending_put (k : String) (v : α) {es : List (String × α)}
    (h : es.Pairwise fun a b => Text.Before a.1 b.1) :
    (put k v es).Pairwise fun a b => Text.Before a.1 b.1 := by
  induction es with
  | nil => exact List.pairwise_singleton _ _
  | cons x xs ih =>
    obtain ⟨hx, hxs⟩ := List.pairwise_cons.1 h
    unfold put
    split
    · next heq => exact List.pairwise_cons.2 ⟨fun e he => heq ▸ hx e he, hxs⟩
    · next hne =>
      split
      · next hlt =>
        refine List.pairwise_cons.2 ⟨fun e he => ?_, ih hxs⟩
        rcases mem_put he with rfl | he
        · exact hlt
        · exact hx e he
      · next hnlt =>
        have hk : Text.Before k x.1 := Text.before_of_not_before hnlt hne
        refine List.pairwise_cons.2 ⟨fun e he => ?_, h⟩
        rcases List.mem_cons.1 he with rfl | he
        · exact hk
        · exact hk.trans (hx e he)

/-- The table with `k` set to `v`, replacing any earlier value. -/
def insert (t : Table α) (k : String) (v : α) : Table α :=
  ⟨put k v t.entries, ascending_put k v t.ascending⟩

/-- The table without `k`. -/
def erase (t : Table α) (k : String) : Table α :=
  ⟨t.entries.filter (fun e => !(e.1 = k : Bool)), t.ascending.sublist List.filter_sublist⟩

/-! ## Look-ups -/

@[simp] theorem find?_empty (k : String) : (empty : Table α).find? k = none := rfl

theorem find?_put (k : String) (v : α) (es : List (String × α)) (j : String) :
    ((put k v es).find? (fun e => e.1 = j)).map (·.2)
      = if j = k then some v else (es.find? (fun e => e.1 = j)).map (·.2) := by
  induction es with
  | nil => by_cases h : j = k <;> simp [put, h, eq_comm]
  | cons x xs ih =>
    unfold put
    by_cases hx : x.1 = k
    · by_cases h : j = k
      · simp [hx, h]
      · have h' : ¬ k = j := fun e => h e.symm
        simp [hx, h, h']
    · by_cases hlt : Text.Before x.1 k
      · by_cases hj : x.1 = j
        · have hjk : ¬ j = k := hj ▸ hx
          simp only [if_neg hx, if_pos hlt, if_neg hjk]
          simp [hj]
        · simp only [hx, hlt, if_true, if_false, List.find?_cons, hj, decide_false, ih]
      · by_cases h : j = k
        · simp [hx, hlt, h]
        · have h' : ¬ k = j := fun e => h e.symm
          simp [hx, hlt, h, h', List.find?_cons]

/-- The last value inserted is found; other keys are as before. -/
theorem find?_insert (t : Table α) (k : String) (v : α) (j : String) :
    (t.insert k v).find? j = if j = k then some v else t.find? j :=
  find?_put k v t.entries j

/-- An erased key is gone; other keys are as before. -/
theorem find?_erase (t : Table α) (k j : String) :
    (t.erase k).find? j = if j = k then none else t.find? j := by
  simp only [find?, erase, List.find?_filter]
  by_cases h : j = k
  · subst h
    simp
  · simp only [h, if_false]
    congr 2
    funext e
    by_cases he : e.1 = j <;> simp [he, h]

/-- The keys are those with a value. -/
theorem mem_keys {t : Table α} {k : String} : k ∈ t.keys ↔ (t.find? k).isSome := by
  simp only [keys, find?, List.mem_map, Option.isSome_map, List.find?_isSome, decide_eq_true_eq]

/-- The keys are strictly ascending. -/
theorem keys_ascending (t : Table α) : t.keys.Pairwise Text.Before :=
  List.pairwise_map.2 t.ascending

end Table

/-! ## Sets of words -/

/-- A set of words, listed in ascending order. -/
abbrev WordSet := Table Unit

namespace WordSet

/-- The set with one more word. -/
def add (s : WordSet) (w : String) : WordSet := s.insert w ()

/-- The set with all words of a list added. -/
def addAll (s : WordSet) (ws : List String) : WordSet := ws.foldl add s

/-- The set of the words of a list. -/
def ofList (ws : List String) : WordSet := addAll Table.empty ws

theorem mem_add {s : WordSet} {w v : String} : v ∈ (s.add w).keys ↔ v = w ∨ v ∈ s.keys := by
  simp only [Table.mem_keys, add, Table.find?_insert]
  by_cases h : v = w <;> simp [h]

theorem mem_addAll {s : WordSet} {ws : List String} {v : String} :
    v ∈ (s.addAll ws).keys ↔ v ∈ ws ∨ v ∈ s.keys := by
  induction ws generalizing s with
  | nil => simp [addAll]
  | cons w ws ih =>
    rw [show s.addAll (w :: ws) = (s.add w).addAll ws from rfl, ih, mem_add, List.mem_cons]
    constructor
    · rintro (h | h | h) <;> simp [h]
    · rintro ((h | h) | h) <;> simp [h]

theorem mem_ofList {ws : List String} {v : String} : v ∈ (ofList ws).keys ↔ v ∈ ws := by
  rw [ofList, mem_addAll, Table.mem_keys, Table.find?_empty]
  simp

end WordSet

end PictureIndex
