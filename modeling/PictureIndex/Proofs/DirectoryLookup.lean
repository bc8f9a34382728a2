import PictureIndex.Proofs.Descent
/-!
# Looking up a directory

The store compares texts when it looks up what is recorded below a directory: a recorded text is
found if it starts with the directory's text and one slash.  Here this is read as a statement about
the names between the slashes.  A path has components (`Path.HasComponents`) if it is spelled by
them with one slash before each, and a recorded path is found if its components are those of the
directory and at least one more (`Path.lists_iff_hasComponents`).

A path is any bytes, but a directory is looked up by its text.  What of its names is not UTF-8 is
therefore looked for as U+FFFD, each name on its own; the names of a path that is UTF-8 stay.

* `directory_lookup_is_descent`: which records are found below a directory.
* `broken_name_finds_its_text`: a directory with a name that is not UTF-8 finds the records of
  another one.
-/

namespace PictureIndex

namespace Path

open Utf8

variable {d p : Path} {k : String} {names names' : List (List UInt8)}

/-! ## Components -/

/-- Whether bytes may stand between two slashes: there are some, and no slash is among them. -/
def IsComponent (name : List UInt8) : Prop := name ≠ [] ∧ slash ∉ name

instance (name : List UInt8) : Decidable (IsComponent name) := inferInstanceAs (Decidable (_ ∧ _))

/-- Whether a path is absolute and has these names between its slashes, and no slash at its end
unless it is the root. -/
structure HasComponents (p : Path) (names : List (List UInt8)) : Prop where
  /-- The names may stand between slashes. -/
  isComponent : ∀ name ∈ names, IsComponent name
  /-- The path is spelled by them. -/
  eq_pathOf : p = FileTree.pathOf names

instance (p : Path) (names : List (List UInt8)) : Decidable (p.HasComponents names) :=
  decidable_of_iff ((∀ name ∈ names, IsComponent name) ∧ p = FileTree.pathOf names)
    ⟨fun h => ⟨h.1, h.2⟩, fun h => ⟨h.1, h.2⟩⟩

/-- Names with a slash before each. -/
def spell (names : List (List UInt8)) : List UInt8 := names.flatMap (slash :: ·)

lemma spell_concat (names : List (List UInt8)) (name : List UInt8) :
    spell (names ++ [name]) = spell names ++ slash :: name := by
  rw [spell, List.flatMap_append, List.flatMap_singleton, spell]

lemma spell_append (names more : List (List UInt8)) :
    spell (names ++ more) = spell names ++ spell more :=
  List.flatMap_append

/-- A path is its names with a slash before each, and more slashes if it is the root. -/
lemma HasComponents.bytes_eq (h : p.HasComponents names) :
    ∃ n, p.bytes = spell names ++ List.replicate n slash := by
  rw [h.eq_pathOf, FileTree.pathOf]
  split
  · rename_i hnil
    rw [List.isEmpty_iff.mp hnil]
    exact ⟨1, rfl⟩
  · exact ⟨0, (List.append_nil _).symm⟩

lemma HasComponents.bytes_of_ne_nil (h : p.HasComponents names) (hne : names ≠ []) :
    p.bytes = spell names := by
  rw [h.eq_pathOf, FileTree.pathOf, if_neg (by simpa using hne)]
  rfl

/-- The pieces between slashes are the names. -/
lemma splitSlash_spell (h : ∀ name ∈ names, IsComponent name) :
    splitSlash (spell names) = [] :: names := by
  induction names using List.reverseRecOn with
  | nil => rfl
  | append_singleton names name ih =>
    rw [spell_concat, splitSlash_append, ih fun n hn => h n (List.mem_append_left _ hn),
      splitSlash_of_not_mem (h name (by simp)).2]
    rfl

/-- The names of a path are its own. -/
lemma HasComponents.unique (h : p.HasComponents names) (h' : p.HasComponents names') :
    names = names' := by
  have hplain {names : List (List UInt8)} (h : p.HasComponents names) :
      FileTree.plainNames p.bytes = names := by
    obtain ⟨n, hn⟩ := h.bytes_eq
    rw [hn, FileTree.plainNames_slashes, FileTree.plainNames,
      splitSlash_spell h.isComponent, List.filter_cons_of_neg (by simp)]
    exact List.filter_eq_self.mpr fun name hname => by simpa using (h.isComponent name hname).1
  rw [← hplain h, hplain h']

/-! ## Components of a text -/

/-- Names are spelled anew one by one. -/
lemma respell_spell (names : List (List UInt8)) :
    respell (spell names) = spell (names.map respell) := by
  induction names using List.reverseRecOn with
  | nil => rfl
  | append_singleton names name ih =>
    rw [spell_concat, respell_append_ascii slash_ascii, ih, List.map_append, List.map_singleton,
      spell_concat]

lemma decodeLossy_slashes (bs : List UInt8) (n : Nat) :
    decodeLossy (bs ++ List.replicate n slash) = decodeLossy bs ++ List.replicate n '/' := by
  refine encode_injective ?_
  rw [encode_append, encode_slashes]
  exact respell_slashes bs n

/-- The text of names does not end with a slash. -/
lemma getLast?_decodeLossy_spell (h : ∀ name ∈ names, IsComponent name) :
    (decodeLossy (spell names)).getLast? ≠ some '/' := by
  rcases List.eq_nil_or_concat names with rfl | ⟨front, name, rfl⟩
  · simp [spell]
  obtain ⟨hname, hslash⟩ := h name (by simp)
  have hne : decodeLossy name ≠ [] := by
    intro hnil
    exact hname ((respell_eq_nil name).mp (by rw [respell, hnil, encode_nil]))
  have hlast := List.getLast?_eq_some_getLast hne
  rw [List.concat_eq_append, spell_concat, decodeLossy_append_ascii slash_ascii,
    List.getLast?_append, List.getLast?_cons, hlast, Option.getD_some, Option.some_or]
  intro hend
  have hmem := List.getLast_mem hne
  rw [Option.some.inj hend] at hmem
  exact hslash (mem_of_mem_decodeLossy hmem (by decide))

/-- Without the slashes at its end, the text of a directory is that of its names. -/
lemma core_eq_of_bytes (h : ∀ name ∈ names, IsComponent name) {n : Nat}
    (hbytes : d.bytes = spell names ++ List.replicate n slash) :
    d.core = decodeLossy (spell names) := by
  have hkeep : (decodeLossy (spell names)).rdropWhile (· = '/') = decodeLossy (spell names) :=
    List.rdropWhile_eq_self_iff.mpr fun hne => by
      simpa [List.getLast?_eq_some_getLast hne] using getLast?_decodeLossy_spell h
  have hdrop (m : Nat) : (decodeLossy (spell names) ++ List.replicate m '/').rdropWhile (· = '/') =
      decodeLossy (spell names) := by
    induction m with
    | zero => rw [List.replicate_zero, List.append_nil, hkeep]
    | succ m ih =>
      rw [List.replicate_succ', ← List.append_assoc,
        List.rdropWhile_concat_pos _ _ _ (by simp), ih]
  rw [core, text, Text.ofBytesLossy, String.toList_ofList, hbytes, decodeLossy_slashes, hdrop]

lemma bytes_ofText (s : String) : (ofText s).bytes = encode s.toList := rfl

lemma isComponent_respell (h : ∀ name ∈ names, IsComponent name) :
    ∀ name ∈ names.map respell, IsComponent name := by
  intro _ hmem
  obtain ⟨name, hname, rfl⟩ := List.mem_map.mp hmem
  exact ⟨mt (respell_eq_nil name).mp (h name hname).1,
    fun hslash => (h name hname).2 (mem_of_mem_respell hslash slash_ascii)⟩

/-- The path that the text of a directory spells has the same names, spelled anew one by one. -/
lemma HasComponents.respelled (h : d.HasComponents names) :
    d.respelled.HasComponents (names.map respell) := by
  refine ⟨isComponent_respell h.isComponent, ?_⟩
  by_cases hnil : names = []
  · rw [h.eq_pathOf, hnil]
    decide
  · have hbytes : d.respelled.bytes = spell (names.map respell) := by
      rw [respelled_bytes, h.bytes_of_ne_nil hnil, respell_spell]
    rw [FileTree.pathOf, if_neg (by simpa using hnil)]
    show d.respelled = ⟨spell (names.map respell)⟩
    rw [← hbytes]

/-- What is written for a text with components. -/
lemma HasComponents.toList_eq (h : (ofText k).HasComponents names) (hne : names ≠ []) :
    k.toList = decodeLossy (spell names) := by
  rw [← h.bytes_of_ne_nil hne, bytes_ofText, decodeLossy_encode]

/-- **A recorded path is found below a directory if it has the directory's components and more.** -/
theorem lists_iff_hasComponents (hd : d.HasComponents names) (hzero : 0 ∉ d.bytes)
    (hk : (ofText k).HasComponents names') (hne : names' ≠ []) :
    d.Lists k ↔ ∃ more, more ≠ [] ∧ (ofText k).HasComponents (names.map respell ++ more) := by
  obtain ⟨n, hbytes⟩ := hd.bytes_eq
  have hcore := core_eq_of_bytes hd.isComponent hbytes
  rw [lists_iff, hcore, and_iff_right]
  swap
  · intro hmem
    exact hzero (hbytes ▸ List.mem_append_left _ (mem_of_mem_decodeLossy hmem (by decide)))
  constructor
  · rintro ⟨rest, hrest⟩
    have hspelled : spell names' = spell (names.map respell) ++ slash :: encode rest := by
      rw [← hk.bytes_of_ne_nil hne, bytes_ofText, ← hrest, List.append_assoc, encode_append,
        ← respell_spell]
      rfl
    have hnames : names' = names.map respell ++ splitSlash (encode rest) := by
      have hsplit := congrArg splitSlash hspelled
      rw [splitSlash_append, splitSlash_spell hk.isComponent,
        splitSlash_spell (isComponent_respell hd.isComponent)] at hsplit
      exact List.tail_eq_of_cons_eq hsplit
    exact ⟨_, splitSlash_ne_nil _, hnames ▸ hk⟩
  · rintro ⟨more, hmore, hwhole⟩
    obtain ⟨name, rest, rfl⟩ := List.exists_cons_of_ne_nil hmore
    have hspelled : (ofText k).bytes = respell (spell names) ++ slash :: (name ++ spell rest) := by
      rw [hwhole.bytes_of_ne_nil (by simp), spell_append, respell_spell]
      rfl
    refine ⟨decodeLossy (name ++ spell rest), ?_⟩
    rw [← decodeLossy_encode k.toList, ← bytes_ofText, hspelled,
      decodeLossy_append_ascii slash_ascii, respell, decodeLossy_encode, List.append_assoc]
    rfl

end Path

namespace Store

open PictureIndex.Path (HasComponents ofText respell slash)

variable {s : Store} {t : Table Row} {d : Path} {names : List (List UInt8)}

/-- Whether the text of every record is that of an absolute path other than the root, with names
between its slashes and no slash at its end. -/
def RecordsPaths (t : Table Row) : Prop :=
  ∀ k ∈ t.keys, ∃ names, names ≠ [] ∧ (ofText k).HasComponents names

/-- Only the start of the texts below a directory counts in a look-up. -/
lemma under_congr {p q : Path} (h : p.core = q.core) : s.under p = s.under q := by
  have hstart : directoryStart p.text = directoryStart q.text := congrArg (· ++ ['/']) h
  rw [under, under, hstart]

/-- **Looking up a directory finds what is below it, component by component.**  Take any store whose
records are at absolute paths other than the root, with names between the slashes and none at the
end, and any directory like this or the root, be its names what they may but for zero bytes.

* The look-up ends and gives paths in strictly ascending order of their bytes, and slashes at the
  end of the directory's path change nothing.
* These are the recorded paths whose components are those of the directory and at least one more,
  where the names of the directory are read as its text has them, each on its own.  If the
  directory's path is UTF-8, these are its own names.
* So the directory itself is not found, and what is found goes on behind the text of a directory
  that is not the root with a slash and something more. -/
theorem directory_lookup_is_descent (ht : s.pictures = some t) (hkeys : RecordsPaths t)
    (hd : d.HasComponents names) (hzero : 0 ∉ d.bytes) :
    ∃ paths, (∀ slashes, s.under ⟨d.bytes ++ List.replicate slashes slash⟩ = .ok paths) ∧
      paths.Pairwise Text.Before ∧
      (∀ k, k ∈ paths ↔ k ∈ t.keys ∧
        ∃ more, more ≠ [] ∧ (ofText k).HasComponents (names.map respell ++ more)) ∧
      (d.IsText → names.map respell = names) ∧ d.text ∉ paths ∧
      (names ≠ [] → ∀ k ∈ paths, ∃ rest, rest ≠ [] ∧ k.toList = d.text.toList ++ '/' :: rest) := by
  obtain ⟨n, hbytes⟩ := hd.bytes_eq
  have hcore := Path.core_eq_of_bytes hd.isComponent hbytes
  obtain ⟨paths, hunder, hlisted⟩ := under_lists ht d
  simp only [← Table.mem_keys] at hlisted
  have hmem (k : String) : k ∈ paths ↔ k ∈ t.keys ∧
      ∃ more, more ≠ [] ∧ (ofText k).HasComponents (names.map respell ++ more) := by
    rw [hlisted]
    refine and_congr_right fun hk => ?_
    obtain ⟨names', hne, hcomponents⟩ := hkeys k hk
    exact Path.lists_iff_hasComponents hd hzero hcomponents hne
  refine ⟨paths, fun slashes => ?_, ?_, hmem, fun htext => ?_, fun hself => ?_,
    fun hne k hk => ?_⟩
  · rw [← hunder]
    refine under_congr (Eq.trans ?_ hcore.symm)
    refine Path.core_eq_of_bytes (n := n + slashes) hd.isComponent ?_
    rw [List.replicate_add, ← List.append_assoc, ← hbytes]
  · rw [under_eq ht (Path.zero_not_mem_directoryStart hzero)] at hunder
    obtain rfl := Except.ok.inj hunder
    exact t.keys_ascending.sublist List.filter_sublist
  · have hrespelled := hd.respelled
    rw [show d.respelled = d from htext] at hrespelled
    exact hrespelled.unique hd
  · obtain ⟨-, more, hmore, hcomponents⟩ := (hmem _).mp hself
    exact hmore (List.append_right_eq_self.mp (hcomponents.unique hd.respelled))
  · obtain ⟨hkey, hlists⟩ := (hlisted k).mp hk
    obtain ⟨names', hne', hcomponents⟩ := hkeys k hkey
    obtain ⟨rest, hrest⟩ := (Path.lists_iff.mp hlists).2
    have htext : d.text.toList = d.core := by
      rw [hcore, Path.text, Text.ofBytesLossy, String.toList_ofList, hd.bytes_of_ne_nil hne]
    refine ⟨rest, ?_, by rw [htext, ← hrest, List.append_assoc]; rfl⟩
    rintro rfl
    have hlast := Path.getLast?_decodeLossy_spell hcomponents.isComponent
    rw [← hcomponents.toList_eq hne', ← hrest] at hlast
    simp at hlast

/-- A table with a record at each of these texts. -/
def recordsAt (ks : List String) : Table Row :=
  ks.foldl (fun t k => t.insert k default) Table.empty

/-- A store with these records. -/
def holding (ks : List String) : Store := { new with pictures := some (recordsAt ks) }

/-- Pictures in two directories and one that is called like the first of these. -/
def trips : List String := ["/pics/trip/a.png", "/pics/trips/c.png", "/pics/trip"]

/-- The names of the first directory. -/
def tripNames : List (List UInt8) := [[0x70, 0x69, 0x63, 0x73], [0x74, 0x72, 0x69, 0x70]]

lemma recordsPaths_of_plainNames (h : ∀ k ∈ t.keys,
    FileTree.plainNames (ofText k).bytes ≠ [] ∧
      (ofText k).HasComponents (FileTree.plainNames (ofText k).bytes)) : RecordsPaths t :=
  fun k hk => ⟨_, h k hk⟩

/-- Below a directory, neither itself nor one with a longer name is found. -/
theorem directory_lookup_is_descent_of_trips :
    RecordsPaths (recordsAt trips) ∧ (ofText "/pics/trip").HasComponents tripNames ∧
      0 ∉ (ofText "/pics/trip").bytes ∧ "/pics/trip" ∈ (recordsAt trips).keys ∧
      "/pics/trips/c.png" ∈ (recordsAt trips).keys ∧
      ∃ paths, (holding trips).under (ofText "/pics/trip//") = .ok paths ∧
        "/pics/trip/a.png" ∈ paths ∧ "/pics/trips/c.png" ∉ paths ∧ "/pics/trip" ∉ paths := by
  have hkeys : RecordsPaths (recordsAt trips) := recordsPaths_of_plainNames (by decide +kernel)
  have hd : (ofText "/pics/trip").HasComponents tripNames := by decide +kernel
  have hzero : 0 ∉ (ofText "/pics/trip").bytes := by decide +kernel
  obtain ⟨paths, hunder, -, hmem, -, hself, hbehind⟩ :=
    directory_lookup_is_descent (s := holding trips) rfl hkeys hd hzero
  refine ⟨hkeys, hd, hzero, by decide +kernel, by decide +kernel, paths, hunder 2, ?_,
    fun hlonger => ?_, by simpa using hself⟩
  · exact (hmem _).mpr ⟨by decide +kernel, [[0x61, 0x2E, 0x70, 0x6E, 0x67]], by simp,
      by decide +kernel⟩
  · obtain ⟨rest, -, hrest⟩ := hbehind (by decide) _ hlonger
    -- behind the directory's text comes an s
    have hnext := congrArg (·[10]?) hrest
    simp at hnext

/-- A directory with a name that is not UTF-8 finds what is recorded below the path that its text
spells, although the components of what is found are not its own and more. -/
theorem broken_name_finds_its_text :
    let k := "/\uFFFD/a.png"
    let d : Path := ⟨[slash, 0xFF]⟩
    RecordsPaths (recordsAt [k]) ∧ d.HasComponents [[0xFF]] ∧ 0 ∉ d.bytes ∧
      (holding [k]).under d = .ok [k] ∧
      ¬ ∃ more, more ≠ [] ∧ (ofText k).HasComponents ([[0xFF]] ++ more) := by
  intro k d
  refine ⟨recordsPaths_of_plainNames (by decide +kernel), by decide, by decide, by decide +kernel,
    ?_⟩
  rintro ⟨more, -, hmore⟩
  have hspelled : (ofText k).HasComponents
      [[0xEF, 0xBF, 0xBD], [0x61, 0x2E, 0x70, 0x6E, 0x67]] := by
    decide +kernel
  have hnames := hmore.unique hspelled
  simp at hnames

end Store

end PictureIndex
