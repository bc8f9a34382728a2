import PictureIndex.Proofs.Effects
/-!
# Items lead downwards

A directory leads to its entries, which are one step further down in a finite tree.  A path that is
gone and has no extension leads to the recorded texts below it, which are longer, and there are only
so many records.  So one would think that every item is further from the end than those to which it
leads, and this is what `rank_lt_of_leadsTo` says, with one exception: the store does not count the
slashes at the end of a directory's text, so it lists a text that ends with a slash below itself
(`Path.lists_itself_iff`).  If nothing stands at its path, then an item for it leads to itself
(`FileTree.IsTrap`).
-/

namespace PictureIndex

namespace Path

variable {d : Path} {k : String}

lemma lists_iff : d.Lists k ↔ '\x00' ∉ d.core ∧ d.core ++ ['/'] <+: k.toList := by
  rw [Lists, isAbove, List.isPrefixOf_iff_prefix, show Store.directoryStart d.text = d.core ++ ['/']
    from rfl]
  simp [core]

/-- The store lists a text below itself if it ends with a slash. -/
lemma lists_itself_iff :
    (ofText k).Lists k ↔ '\x00' ∉ (ofText k).core ∧ k.toList.getLast? = some '/' := by
  rw [lists_iff, and_congr_right_iff]
  intro _
  obtain ⟨n, hn⟩ := (ofText k).text_eq_core
  rw [text_ofText] at hn
  cases n with
  | zero =>
    rw [List.replicate_zero, List.append_nil] at hn
    rw [hn]
    constructor
    · intro hlists
      simpa using hlists.length_le
    · intro hlast
      have hne : (ofText k).core ≠ [] := by
        intro hnil
        simp [hnil] at hlast
      have hnot := List.rdropWhile_last_not _ _ hne
      rw [List.getLast?_eq_some_getLast hne, Option.some.injEq] at hlast
      exact absurd (decide_eq_true hlast) hnot
  | succ n =>
    rw [hn, List.replicate_succ']
    refine iff_of_true ?_ (by simp)
    rw [← List.replicate_succ', List.replicate_succ]
    exact (List.prefix_append_right_inj _).mpr ⟨_, rfl⟩

/-- What the store lists below a directory is longer, unless it is listed below itself. -/
lemma Lists.core_length_lt (h : d.Lists k) (hself : ¬ (ofText k).Lists k) :
    d.core.length < (ofText k).core.length := by
  obtain ⟨hzero, hbelow⟩ := lists_iff.mp h
  obtain ⟨n, hn⟩ := (ofText k).text_eq_core
  rw [text_ofText] at hn
  have hlength := hbelow.length_le
  rw [List.length_append, List.length_singleton] at hlength
  by_cases hother : '\x00' ∈ (ofText k).core
  · -- the zero character is behind all that the directory's text has
    have hprefix : (ofText k).core <+: k.toList := ⟨_, hn.symm⟩
    rcases List.prefix_or_prefix_of_prefix hbelow hprefix with hlonger | hshorter
    · have hle := hlonger.length_le
      rw [List.length_append, List.length_singleton] at hle
      omega
    · have hmem := hshorter.subset hother
      simp [hzero] at hmem
  · cases n with
    | zero =>
      rw [List.replicate_zero, List.append_nil] at hn
      rw [← hn]
      omega
    | succ n =>
      refine absurd (lists_itself_iff.mpr ⟨hother, ?_⟩) hself
      rw [hn, List.replicate_succ']
      simp

end Path

namespace FileTree

/-- Whether a recorded text would lead to itself: nothing stands at its path, the path has no
extension, and the store lists the text below itself. -/
structure IsTrap (t : FileTree) (k : String) : Prop where
  /-- Nothing stands there. -/
  gone : t.kind? (.ofText k) = none
  /-- It may have been a directory. -/
  hasExtension_eq : (Path.ofText k).hasExtension = false
  /-- The text is listed below itself. -/
  lists : (Path.ofText k).Lists k

/-- What a directory lists is found one step below it. -/
lemma locate?_of_mem_list {t : FileTree} (ht : t.WellFormed) {p q : Path}
    (hkind : t.kind? p = some .directory) (hq : q ∈ t.list p) :
    ∃ l name, t.base? p = some l ∧ t.locate? .itself q = some (l ++ [name]) ∧
      (t.at? (l ++ [name])).isSome := by
  obtain ⟨l, hbase, -, -, -⟩ := base?_of_directory hkind
  rw [list_of_directory hkind hbase] at hq
  obtain ⟨name, hname, rfl⟩ := List.mem_map.mp hq
  rw [mem_names] at hname
  obtain ⟨entry, hentry⟩ := Option.isSome_iff_exists.mp hname
  have hvalid := ht.isName _ ((at?_isSome (by simp)).mp hname) name (by simp)
  exact ⟨l, name, hbase, locate?_entry hkind hbase hvalid hentry, hname⟩

end FileTree

/-- How far the items to which an item may lead can go on: down the tree, and before that from one
record to longer ones. -/
def Item.rank (files : FileTree) (longest : Nat) (item : Item) : Nat :=
  match item.work, files.kind? item.path with
  | .examine, some .directory => files.depth + 1 - ((files.base? item.path).getD []).length
  | .examine, none =>
    if item.path.hasExtension then 0 else files.depth + 2 + (longest - item.path.core.length)
  | _, _ => 0

section

variable {files : FileTree} {longest : Nat} {recorded : String → Prop}

/-- Where something stands, only the depth of the tree counts. -/
lemma Item.rank_le_of_there {item : Item} (h : files.kind? item.path ≠ none) :
    item.rank files longest ≤ files.depth + 1 := by
  rw [rank]
  split
  · omega
  · rename_i hnone
    exact absurd hnone h
  · omega

/-- **Every item is further from the end than those to which it leads**, if no record is a trap. -/
theorem rank_lt_of_leadsTo (hfiles : files.WellFormed)
    (hlongest : ∀ k, recorded k → (Path.ofText k).hasExtension = false →
      k.toList.length ≤ longest) {item : Item} {q : Path} (h : LeadsTo files recorded item q)
    (htrap : ∀ k, recorded k → q = .ofText k → ¬ files.IsTrap k) :
    (⟨q, .examine⟩ : Item).rank files longest < item.rank files longest := by
  cases h with
  | @entry p _ hkind hq =>
    obtain ⟨l, name, hbase, hlocate, hat⟩ := FileTree.locate?_of_mem_list hfiles hkind hq
    have hdepth := FileTree.length_le_depth ((FileTree.at?_isSome (by simp)).mp hat)
    rw [List.length_append, List.length_singleton] at hdepth
    have hitem : (⟨p, .examine⟩ : Item).rank files longest = files.depth + 1 - l.length := by
      simp only [Item.rank, hkind, hbase, Option.getD_some]
    rw [hitem, Item.rank]
    split
    · rename_i hdirectory
      obtain ⟨l', hbase', -, hl', -⟩ := FileTree.base?_of_directory hdirectory
      obtain rfl := Option.some.inj (hlocate.symm.trans hl')
      rw [hbase', Option.getD_some, List.length_append, List.length_singleton]
      omega
    · rename_i hnone
      obtain ⟨entry, hentry⟩ := Option.isSome_iff_exists.mp hat
      exact nomatch hnone.symm.trans (FileTree.kind?_eq_some.mpr ⟨_, entry, hlocate, hentry, rfl⟩)
    · omega
  | @below p k hkind hname hlists hk =>
    have hitem : (⟨p, .examine⟩ : Item).rank files longest =
        files.depth + 2 + (longest - p.core.length) := by
      simp [Item.rank, hkind, hname]
    rw [hitem]
    by_cases hthere : files.kind? (.ofText k) = none
    swap
    · have hle : (⟨.ofText k, .examine⟩ : Item).rank files longest ≤ files.depth + 1 :=
        Item.rank_le_of_there hthere
      omega
    cases hextension : (Path.ofText k).hasExtension with
    | true =>
      simp only [Item.rank, hthere, hextension, if_true]
      omega
    | false =>
      have hself : ¬ (Path.ofText k).Lists k := fun hself =>
        htrap k hk rfl ⟨hthere, hextension, hself⟩
      have hlt := hlists.core_length_lt hself
      have hle : (Path.ofText k).core.length ≤ k.toList.length := by
        rw [Path.core, Path.text_ofText]
        exact (List.rdropWhile_prefix ..).length_le
      have hbound := hlongest k hk hextension
      simp only [Item.rank, hthere, hextension, Bool.false_eq_true, if_false]
      omega

end

end PictureIndex
