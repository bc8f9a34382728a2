import PictureIndex.Proofs.BreadthFirst
/-!
# Files listed in another order

The order in which a directory lists its entries is no property of the files.  Two trees agree
(`FileTree.Agrees`) if the same stands at every location; then every path leads to the same place in
both, and a directory lists the same entries, in whatever order.

Where all names are UTF-8, only paths that are UTF-8 lead anywhere (`FileTree.isText_of_kind?`),
since a path can pass no other name than one of the tree.
-/

namespace PictureIndex

namespace Path

open Utf8

variable {p : Path} {name : List UInt8}

/-- Whether a name is UTF-8. -/
def IsTextName (name : List UInt8) : Prop := ∃ s : String, Text.bytes s = name

lemma isText_iff : p.IsText ↔ respell p.bytes = p.bytes := by
  rw [IsText, ← respelled_bytes]
  constructor
  · exact congrArg Path.bytes
  · intro hsame
    cases p
    exact congrArg Path.mk hsame

lemma IsTextName.respell_eq (h : IsTextName name) : respell name = name := by
  obtain ⟨s, rfl⟩ := h
  exact isText_iff.mp (isText_ofText s)

lemma splitSlash_cons {b : UInt8} (hb : b ≠ slash) (bs : List UInt8) :
    ∃ n ns, splitSlash bs = n :: ns ∧ splitSlash (b :: bs) = (b :: n) :: ns := by
  obtain ⟨n, ns, hsplit⟩ := List.exists_cons_of_ne_nil (splitSlash_ne_nil bs)
  exact ⟨n, ns, hsplit, by rw [splitSlash, if_neg hb, hsplit]⟩

/-- Bytes can be put together again from the pieces between their slashes. -/
lemma intercalate_splitSlash (bs : List UInt8) : [slash].intercalate (splitSlash bs) = bs := by
  induction bs with
  | nil => rfl
  | cons b bs ih =>
    by_cases hb : b = slash
    · subst hb
      obtain ⟨n, ns, hrest⟩ := List.exists_cons_of_ne_nil (splitSlash_ne_nil bs)
      rw [splitSlash_slash, hrest, List.intercalate_cons_cons, ← hrest, ih]
      rfl
    · obtain ⟨n, ns, hrest, hsplit⟩ := splitSlash_cons hb bs
      rw [hrest] at ih
      rw [hsplit, ← ih]
      cases ns with
      | nil => simp
      | cons n' ns => simp [List.intercalate_cons_cons]

lemma splitSlash_injective : Function.Injective splitSlash :=
  Function.LeftInverse.injective intercalate_splitSlash

/-- A path is UTF-8 if its names are. -/
lemma isText_of_names (h : ∀ name ∈ FileTree.plainNames p.bytes, IsTextName name) : p.IsText := by
  refine isText_iff.mpr (splitSlash_injective ?_)
  rw [splitSlash_respell, List.map_congr_left (g := id), List.map_id]
  intro name hname
  by_cases hnil : name = []
  · rw [hnil, respell_nil, id]
  · exact (h name (List.mem_filter.mpr ⟨hname, by simpa using hnil⟩)).respell_eq

/-- The path of an entry with a name that is UTF-8 is UTF-8 as that of its directory. -/
lemma IsText.entry (hp : p.IsText) (hname : IsTextName name) : (p.entry name).IsText := by
  have hparts := isText_iff.mp hp
  rw [isText_iff, Path.entry]
  split
  · rename_i hlast
    rcases hlast with hnil | hlast
    · rw [hnil]
      exact hname.respell_eq
    · obtain ⟨core, hcore⟩ : ∃ core, p.bytes = core ++ [slash] :=
        ⟨_, (List.dropLast_append_getLast? slash hlast).symm⟩
      show respell (p.bytes ++ name) = p.bytes ++ name
      rw [hcore] at hparts ⊢
      rw [respell_append_ascii slash_ascii, respell_nil] at hparts
      rw [List.append_assoc, List.singleton_append, respell_append_ascii slash_ascii,
        hname.respell_eq, (List.append_inj_left' hparts rfl : respell core = core)]
  · show respell (p.bytes ++ slash :: name) = p.bytes ++ slash :: name
    rw [respell_append_ascii slash_ascii, hparts, hname.respell_eq]

end Path

namespace FileTree

open PictureIndex.Path (IsTextName)

variable {t t' : FileTree} {ending : Ending} {p q : Path}

/-! ## The same files -/

/-- Whether the same stands at every location of two trees, however directories list it. -/
def Agrees (t t' : FileTree) : Prop := ∀ l, t.at? l = t'.at? l

lemma Agrees.symm (h : t.Agrees t') : t'.Agrees t := fun l => (h l).symm

private lemma lookup_eq_of_perm {xs ys : List (Location × Entry)} (h : xs.Perm ys)
    (hnodup : (xs.map (·.1)).Nodup) (l : Location) : xs.lookup l = ys.lookup l := by
  induction h with
  | nil => rfl
  | cons x _ ih =>
    rw [List.map_cons, List.nodup_cons] at hnodup
    rw [List.lookup_cons, List.lookup_cons, ih hnodup.2]
  | swap x y xs =>
    have hne : y.1 ≠ x.1 := fun hsame => by simp [hsame] at hnodup
    obtain ⟨m, e⟩ := x
    obtain ⟨m', e'⟩ := y
    rw [List.lookup_cons, List.lookup_cons, List.lookup_cons, List.lookup_cons]
    by_cases hm : l = m
    · have hm' : (l == m') = false := by simpa [hm] using hne.symm
      rw [hm']
    · have hm' : (l == m) = false := by simpa using hm
      rw [hm']
  | trans h _ ih ih' => exact (ih hnodup).trans (ih' ((h.map _).nodup_iff.mp hnodup))

/-- Entries in another order are the same files. -/
lemma agrees_of_perm (hnodup : (t.entries.map (·.1)).Nodup) (h : t.entries.Perm t'.entries) :
    t.Agrees t' := by
  intro l
  cases l with
  | nil => rfl
  | cons name l => exact lookup_eq_of_perm h hnodup (name :: l)

namespace Agrees

variable (h : t.Agrees t')

include h

lemma walk (links : Nat) : t.walk ending links = t'.walk ending links := by
  have hdir (l : Location) : t.isDirectoryAt l = t'.isDirectoryAt l := by
    rw [isDirectoryAt, isDirectoryAt, h l]
  have hstretch (follow : Location → List (List UInt8) → Option Location) :
      t.stretch ending follow = t'.stretch ending follow := by
    funext here names
    induction names generalizing here with
    | nil => rfl
    | cons name rest ih => simp only [stretch, hdir, h (here ++ [name]), ih]
  induction links with
  | zero => exact hstretch _
  | succ links ih =>
    show t.stretch ending (t.walk ending links) = t'.stretch ending (t'.walk ending links)
    rw [ih, hstretch]

lemma locate?_eq : t.locate? ending p = t'.locate? ending p := by
  rw [locate?, locate?, h.walk]

lemma look_eq : FileTree.entry? t p = FileTree.entry? t' p := by
  rw [ entry?, entry?, h.locate?_eq, funext h]

lemma target?_eq : t.target? p = t'.target? p := by
  rw [target?, target?, h.locate?_eq, funext h]

lemma kind?_eq : t.kind? p = t'.kind? p := by
  rw [kind?, kind?, h.look_eq]

lemma info?_eq : t.info? p = t'.info? p := by
  rw [info?, info?, h.target?_eq]

lemma pictureType_eq : t.pictureType p = t'.pictureType p := by
  rw [pictureType, pictureType, read?, read?, h.target?_eq]

/-- A directory lists the same entries. -/
lemma mem_list : q ∈ t.list p ↔ q ∈ t'.list p := by
  have hdir (l : Location) : t.isDirectoryAt l = t'.isDirectoryAt l := by
    rw [isDirectoryAt, isDirectoryAt, h l]
  rw [list, list, h.locate?_eq]
  cases t'.locate? .target p with
  | none => rfl
  | some l =>
    simp only [hdir]
    split
    · simp only [List.mem_map, mem_names, h (l ++ _)]
    · rfl

end Agrees

/-! ## Paths that lead somewhere -/

/-- A walk passes only names that are in the tree. -/
lemma isTextName_of_walk (ht : t.HasTextNames) {links : Nat} {here l : Location}
    {names : List (List UInt8)} (hwalk : t.walk .itself links here names = some l) :
    ∀ name ∈ names, IsTextName name := by
  induction links using Nat.strongRecOn generalizing here names with
  | _ links ihl =>
    have hbehind {start : Location} {names : List (List UInt8)}
        (h : t.behind .itself links start names = some l) : ∀ name ∈ names, IsTextName name := by
      cases links with
      | zero => cases h
      | succ links => exact ihl links (Nat.lt_succ_self links) h
    induction names generalizing here with
    | nil => simp
    | cons name rest ih =>
      rw [walk_eq] at ih hwalk
      rw [List.forall_mem_cons]
      rw [stretch] at hwalk
      split at hwalk
      · cases hwalk
      split at hwalk
      · rename_i hdot
        exact ⟨hdot ▸ ⟨".", by decide⟩, ih hwalk⟩
      split at hwalk
      · rename_i hdots
        exact ⟨hdots ▸ ⟨"..", by decide⟩, ih hwalk⟩
      have hname (hsome : (t.at? (here ++ [name])).isSome) : IsTextName name :=
        ht _ ((at?_isSome (by simp)).mp hsome) name (by simp)
      cases hat : t.at? (here ++ [name]) with
      | none =>
        rw [hat] at hwalk
        simp at hwalk
      | some e =>
        rw [hat] at hwalk hname
        refine ⟨hname rfl, ?_⟩
        cases e with
        | link target =>
          simp only at hwalk
          split at hwalk
          · rename_i hlast
            have hnil : rest = [] := by simpa using hlast
            simp [hnil]
          · split at hwalk
            · cases hwalk
            · exact fun name hmem => hbehind hwalk name (List.mem_append_right _ hmem)
        | _ => exact ih hwalk

/-- **Only paths that are UTF-8 lead anywhere** in a tree whose names are. -/
theorem isText_of_kind? (ht : t.HasTextNames) (hkind : t.kind? p ≠ none) : p.IsText := by
  obtain ⟨kind, hkind⟩ := Option.ne_none_iff_exists'.mp hkind
  obtain ⟨l, -, hl, -⟩ := kind?_eq_some.mp hkind
  rw [locate?_of_proper (proper_of_locate? hl)] at hl
  refine Path.isText_of_names fun name hname => isTextName_of_walk ht hl name ?_
  rw [namesOf_eq, if_neg (List.ne_nil_of_mem hname)]
  split
  · exact List.mem_append_left _ hname
  · exact hname

/-- What a directory lists is UTF-8 as its own path. -/
lemma isText_of_mem_list (ht : t.HasTextNames) (hp : p.IsText) (hq : q ∈ t.list p) : q.IsText := by
  obtain ⟨l, name, hname, rfl⟩ := mem_list hq
  have hlisted := (at?_isSome (by simp)).mp (mem_names.mp hname)
  exact hp.entry (ht _ hlisted name (by simp))

end FileTree

end PictureIndex
