import PictureIndex.Proofs.Launches
/-!
# Exclusions under a linked root

A root that is a link is resolved when a worker starts, and all paths that are looked at are below
the directory itself.  The excluded prefixes are not resolved.  Those that are spelled under the
link are no prefixes of these paths, for if such a path went on from the link's own, a directory
would stand there (`FileTree.not_below_link`).  So they exclude nothing.

A worker that was given the directory itself and the same prefixes under its path leaves out what is
excluded; of the rest both make the same records (`linked_root_voids_exclusions`).
-/

namespace PictureIndex

namespace Path

variable {p q : Path} {name : List UInt8}

/-- The prefix of paths that a text spells below a directory. -/
def inside (p : Path) (x : String) : String := (p.entry (Text.bytes x)).text

/-- Where the texts of two paths go on from each other, the paths do. -/
lemma prefix_of_text (hp : p.IsText) (hq : q.IsText) (h : p.text.toList <+: q.text.toList) :
    p.bytes <+: q.bytes := by
  have hbytes {p : Path} (hp : p.IsText) : p.bytes = Utf8.encode p.text.toList := by
    conv_lhs => rw [← (show p.respelled = p from hp)]
    rfl
  obtain ⟨rest, hrest⟩ := h
  rw [hbytes hp, hbytes hq, ← hrest, Utf8.encode_append]
  exact List.prefix_append _ _

/-- The name of an entry's path is that of the entry. -/
lemma name?_entry (hp : p.bytes ≠ []) (hname : IsName name) :
    (p.entry name).name? = some name := by
  obtain ⟨core, n, -, hentry⟩ := FileTree.entry_bytes hp name
  have hpieces : ∃ front, (p.entry name).pieces = front ++ [name] := by
    rw [pieces, hentry, splitSlash_append, splitSlash_of_not_mem hname.slash_not_mem,
      List.filter_append]
    exact ⟨_, congrArg _ (by simp [hname.ne_nil, hname.ne_dot])⟩
  obtain ⟨front, hfront⟩ := hpieces
  rw [name?, hfront, List.getLast?_concat, Option.filter_some, if_pos (by simp [hname.ne_dots])]

end Path

namespace FileTree

open PictureIndex.Path (slash IsName)

variable {t : FileTree} {l : Location} {p q : Path} {names : List (List UInt8)}

/-! ## Canonical paths -/

lemma WellFormed.isName_of_at? (ht : t.WellFormed) (hat : (t.at? l).isSome) :
    ∀ name ∈ l, IsName name := fun name hname =>
  ht.isName l ((at?_isSome (List.ne_nil_of_mem hname)).mp hat) name hname

lemma pathOf_entry (hl : ∀ name ∈ l, IsName name) (name : List UInt8) :
    (pathOf l).entry name = pathOf (l ++ [name]) := by
  rcases List.eq_nil_or_concat l with rfl | ⟨front, last, rfl⟩
  · simp [pathOf, Path.entry]
  · have hlast := hl last (by simp)
    rw [List.concat_eq_append, pathOf, pathOf, if_neg (by simp), if_neg (by simp), Path.entry,
      if_neg]
    · simp
    · simp only [List.flatMap_append, List.flatMap_singleton, List.append_eq_nil_iff,
        List.cons_ne_nil, and_false, false_or]
      rw [List.getLast?_append, List.getLast?_cons, List.getLast?_eq_some_getLast hlast.ne_nil]
      intro hend
      have hsame : last.getLast hlast.ne_nil = slash := by simpa using hend
      exact hlast.slash_not_mem (hsame ▸ List.getLast_mem hlast.ne_nil)

/-- Below a canonical path all paths are canonical. -/
lemma pathOf_below (hl : ∀ name ∈ l ++ names, IsName name) :
    (pathOf l).below names = pathOf (l ++ names) := by
  induction names using List.reverseRecOn with
  | nil => rw [Path.below_nil, List.append_nil]
  | append_singleton names name ih =>
    rw [← List.append_assoc] at hl ⊢
    have habove : ∀ name ∈ l ++ names, IsName name := fun name hmem =>
      hl name (List.mem_append_left _ hmem)
    rw [Path.below_concat, ih habove, pathOf_entry habove]

/-- The canonical path of a location leads there. -/
lemma locate?_pathOf (ht : t.WellFormed) (hat : (t.at? l).isSome) :
    t.locate? .itself (pathOf l) = some l := by
  have hroot : t.locate? .itself (pathOf []) = some [] := rfl
  have hbelow : t.locate? .itself ((pathOf []).below l) = some l := locate?_below ht hroot hat
  have hsame : (pathOf []).below l = pathOf l := pathOf_below (ht.isName_of_at? hat)
  rwa [hsame] at hbelow

private lemma prefix_cases {front back name : List UInt8} (hname : slash ∉ name)
    (h : front ++ [slash] <+: back ++ slash :: name) :
    front = back ∨ front ++ [slash] <+: back := by
  obtain ⟨rest, hrest⟩ := h
  rw [List.append_assoc, List.singleton_append] at hrest
  rcases List.append_eq_append_iff.mp hrest with ⟨more, rfl, hmore⟩ | ⟨more, rfl, hmore⟩
  · rcases List.cons_eq_append_iff.mp hmore with ⟨rfl, -⟩ | ⟨more, rfl, -⟩
    · exact .inl (by simp)
    · exact .inr ⟨more, by simp⟩
  · rcases List.cons_eq_append_iff.mp hmore with ⟨rfl, -⟩ | ⟨more, rfl, hname'⟩
    · exact .inl (by simp)
    · exact absurd (hname' ▸ by simp) hname

lemma ne_nil_of_kind? {kind : EntryKind} (h : t.kind? p = some kind) : p.bytes ≠ [] := by
  obtain ⟨m, -, hm, -⟩ := kind?_eq_some.mp h
  exact ne_nil_of_locate? hm

/-- **No canonical path goes on from the path of a link.** -/
theorem not_below_link (ht : t.WellFormed) (hlink : t.kind? p = some .link)
    (hat : (t.at? l).isSome) : ¬ p.bytes ++ [slash] <+: (pathOf l).bytes := by
  have hne := ne_nil_of_kind? hlink
  induction l using List.reverseRecOn with
  | nil =>
    intro hprefix
    have hlength : (p.bytes ++ [slash]).length ≤ 1 := hprefix.length_le
    have hpos := List.length_pos_of_ne_nil hne
    rw [List.length_append, List.length_singleton] at hlength
    omega
  | append_singleton front name ih =>
    have hdir := ht.isDirectoryAt hat
    have hname := ht.isName_of_at? hat name (by simp)
    intro hprefix
    have hbytes : (pathOf (front ++ [name])).bytes =
        front.flatMap (slash :: ·) ++ slash :: name := by
      rw [pathOf, if_neg (by simp)]
      simp
    rw [hbytes] at hprefix
    rcases prefix_cases hname.slash_not_mem hprefix with hsame | hbefore
    · -- the link would be the directory that the path goes on from
      have hnil : front ≠ [] := by
        rintro rfl
        exact hne hsame
      have hpath : p = pathOf front := by
        rw [pathOf, if_neg (by simpa using hnil), ← hsame]
      have hlocate := locate?_pathOf ht (at?_isSome_of_directory hdir)
      rw [hpath, kind?_of_directory hlocate hdir] at hlink
      cases hlink
    · refine ih (at?_isSome_of_directory hdir) ?_
      rw [pathOf]
      split
      · rename_i hnil
        rw [List.isEmpty_iff.mp hnil] at hbefore
        simp at hbefore
      · exact hbefore

/-- **Prefixes that are spelled under a link exclude no canonical path.** -/
theorem not_excluded_by_link (ht : t.WellFormed) (hnames : t.HasTextNames)
    (hlink : t.kind? p = some .link) (hat : (t.at? l).isSome) (xs : List String) :
    (pathOf l).isExcluded (xs.map p.inside) = false := by
  have hlocate := locate?_pathOf ht hat
  have htext : (pathOf l).IsText := by
    refine isText_of_kind? hnames ?_
    obtain ⟨e, he⟩ := Option.isSome_iff_exists.mp hat
    rw [kind?_eq_some.mpr ⟨l, e, hlocate, he, rfl⟩]
    simp
  have hp : p.IsText := isText_of_kind? hnames (by simp [hlink])
  by_contra hexcluded
  rw [Bool.not_eq_false, Path.isExcluded, List.any_eq_true] at hexcluded
  obtain ⟨e, he, hprefix⟩ := hexcluded
  obtain ⟨x, -, rfl⟩ := List.mem_map.mp he
  rw [Bool.and_eq_true, List.isPrefixOf_iff_prefix] at hprefix
  have hbytes := Path.prefix_of_text (hp.entry ⟨x, rfl⟩) htext hprefix.2
  refine not_below_link ht hlink hat (List.IsPrefix.trans ?_ hbytes)
  have hlast : p.bytes.getLast? ≠ some slash := fun hlast => by
    cases kind?_of_slash hlast hlink
  rw [Path.entry]
  split
  · rename_i hnone
    rcases hnone with hnil | hslash
    · exact absurd hnil (ne_nil_of_kind? hlink)
    · exact absurd hslash hlast
  · exact ⟨Text.bytes x, by simp⟩

/-! ## One file under two paths -/

/-- A file's path leads to it, links followed or not. -/
lemma target?_of_file (hl : t.locate? .itself p = some l) (hkind : t.kind? p = some .file) :
    t.target? p = t.at? l := by
  obtain ⟨m, e, hm, he, hfile⟩ := kind?_eq_some.mp hkind
  obtain rfl := Option.some.inj (hl.symm.trans hm)
  have hlink (target : Path) : t.at? l ≠ some (.link target) := by
    intro hsome
    rw [he, Option.some.injEq] at hsome
    rw [hsome] at hfile
    cases hfile
  have hproper := proper_of_locate? hl
  rw [locate?_of_proper hproper] at hl
  rw [target?, locate?_of_proper hproper, walk_target_of_itself hl hlink, Option.bind_some]

end FileTree

/-- Whether the same is found out about a picture by either of two paths. -/
structure Findings.Alike (A : Findings) (p q : Path) : Prop where
  /-- The same text is recognised. -/
  text_eq : A.text p = A.text q
  /-- The same labels are found. -/
  labels_eq : A.labels p = A.labels q
  /-- The same picture is decoded. -/
  picture_eq : A.picture p = A.picture q

namespace Pipeline

variable {e : Pipeline} {A : Findings} {files : FileTree} {p q : Path} {l : Location}

/-- The same words are found in a picture by two paths of the same name. -/
lemma adds?_alike (halike : A.Alike p q) (hname : p.name? = q.name?) (stage : Stage) :
    e.adds? A.toReadings p stage = e.adds? A.toReadings q stage := by
  cases stage with
  | ocr => rw [adds?, adds?, halike.text_eq]
  | classifier => rw [adds?, adds?, halike.labels_eq]
  | fileName => rw [adds?, adds?, nameWords, nameWords, Path.stem?, Path.stem?, hname]

/-- **A file gets the same row by either of two paths of the same name.** -/
lemma rowAfter_alike (hp : files.locate? .itself p = some l) (hq : files.locate? .itself q = some l)
    (halike : A.Alike p q) (hname : p.name? = q.name?) :
    e.rowAfter A files p none = e.rowAfter A files q none := by
  have hkind : files.kind? p = files.kind? q := by
    rw [FileTree.kind?, FileTree.kind?, FileTree.entry?, FileTree.entry?, hp, hq]
  rw [rowAfter, rowAfter]
  cases hsome : files.kind? p with
  | none => rw [← hkind, hsome, ite_self, ite_self]
  | some kind =>
    rw [← hkind, hsome]
    cases kind with
    | file =>
      have htarget : files.target? p = files.target? q := by
        rw [FileTree.target?_of_file hp hsome, FileTree.target?_of_file hq (hkind ▸ hsome)]
      have hinfo : files.info? p = files.info? q := by
        rw [FileTree.info?, FileTree.info?, htarget]
      have htype : files.pictureType p = files.pictureType q := by
        rw [FileTree.pictureType, FileTree.pictureType, FileTree.read?, FileTree.read?, htarget,
          Path.isCandidate, Path.isCandidate, Path.lowerExtension?, Path.lowerExtension?,
          Path.extension?, Path.extension?, hname]
      have hadds := funext (adds?_alike (e := e) halike hname)
      have hrow : e.rowAt? A.toReadings files p = e.rowAt? A.toReadings files q := by
        rw [rowAt?, rowAt?, FileTree.holdsPicture, FileTree.holdsPicture, hkind, hinfo, htype,
          wordsOf, wordsOf, hadds]
        rfl
      have hreads : e.reads A.toReadings p = e.reads A.toReadings q := by
        rw [reads, reads, hadds]
      simp only [htype, hrow, hreads, halike.picture_eq]
    | _ => rfl

/-- What stands below a directory gets the same row by either of two paths of the directory. -/
lemma rowAfter_below (hfiles : files.WellFormed) (hp : files.locate? .itself p = some l)
    (hq : files.locate? .itself q = some l) (hdir : files.isDirectoryAt l = true)
    {names : List (List UInt8)} (hat : (files.at? (l ++ names)).isSome)
    (halike : A.Alike (p.below names) (q.below names)) :
    e.rowAfter A files (p.below names) none = e.rowAfter A files (q.below names) none := by
  rcases List.eq_nil_or_concat names with rfl | ⟨front, name, rfl⟩
  · -- no directory gets a row
    rw [Path.below_nil, Path.below_nil, rowAfter, rowAfter,
      FileTree.kind?_of_directory hp hdir, FileTree.kind?_of_directory hq hdir]
  · rw [List.concat_eq_append] at hat halike ⊢
    refine rowAfter_alike (FileTree.locate?_below hfiles hp hat)
      (FileTree.locate?_below hfiles hq hat) halike ?_
    have hname := hfiles.isName_of_at? hat name (by simp)
    rw [Path.below_concat, Path.below_concat,
      Path.name?_entry (Path.below_ne_nil (FileTree.ne_nil_of_locate? hp) _) hname,
      Path.name?_entry (Path.below_ne_nil (FileTree.ne_nil_of_locate? hq) _) hname]

end Pipeline

namespace Worker

variable {t : FileTree} {c : Config} {ocr classifier : Bool} {w : Worker}

private lemma bind_eq_ok {α β : Type} {x : Except Error α} {f : α → Except Error β} {b : β} :
    x >>= f = .ok b ↔ ∃ a, x = .ok a ∧ f a = .ok b := by
  cases x <;> simp [bind, Except.bind]

/-- What has been started: the configuration is as it was but for the root, which is resolved if it
is a link. -/
lemma start_eq_ok (h : start t c ocr classifier = .ok w) :
    t.isDirectory c.root = true ∧ resolveRoot t c.root = .ok w.config.root ∧
      w.config = { c with root := w.config.root } ∧
      w.backends = ⟨c.useOcr, c.useContentClassifier⟩ := by
  rw [start] at h
  obtain ⟨_, -, h⟩ := bind_eq_ok.mp h
  obtain ⟨_, hdir, h⟩ := bind_eq_ok.mp h
  obtain ⟨root, hroot, h⟩ := bind_eq_ok.mp h
  obtain ⟨backends, hbackends, h⟩ := bind_eq_ok.mp h
  obtain rfl := Except.ok.inj h
  refine ⟨?_, hroot, rfl, ?_⟩
  · rw [FileTree.startWatching] at hdir
    split at hdir
    · assumption
    · cases hdir
  · rw [Backends.ofConfig] at hbackends
    split at hbackends
    · cases hbackends
    · split at hbackends
      · cases hbackends
      · exact (Except.ok.inj hbackends).symm

end Worker

namespace Simulation.Session

/-- **A linked root voids the exclusions spelled under it.**  Take a tree whose names are UTF-8, an
empty store that refuses nothing, and a configuration without a limit.  Let a path be a link that
leads to a directory, and another one be that of the directory itself.  Start two workers, one with
the link and one with the directory for its root, each with the same prefixes under its root
excluded; let the answers about a picture be the same by whichever path it is asked for, and let
both workers complete their runs.  Then

* the root of the first worker is the canonical path of the directory;
* the first worker has records of all below the directory of which there is anything to be
  recorded, whatever the prefixes are;
* the second one has records of that among it that is not excluded;
* so they have records of the same files just if nothing that is excluded would be recorded. -/
theorem linked_root_voids_exclusions (world : World) (hfiles : world.files.WellFormed)
    (hnames : world.files.HasTextNames) (hempty : world.store.pictures = some Table.empty)
    (hrefused : world.refused = []) (c : Config) (hlimit : c.indexingLimit = none)
    (link root : Path) (l : Location) (hlink : world.files.kind? link = some .link)
    (hleads : world.files.locate? .target link = some l)
    (hroot : world.files.locate? .itself root = some l) (xs : List String)
    (ocr classifier : Bool) (w w' : Worker)
    (hstart : Worker.start world.files
      { c with root := link, excludedPrefixes := xs.map link.inside } ocr classifier = .ok w)
    (hstart' : Worker.start world.files
      { c with root := root, excludedPrefixes := xs.map root.inside } ocr classifier = .ok w')
    (A : Findings)
    (halike : ∀ names, A.Alike (root.below names) ((FileTree.pathOf l).below names))
    (vs vs' : List Move) (h : Completes A (ofWorker world w) vs)
    (h' : Completes A (ofWorker world w') vs') :
    let linked := ((ofWorker world w).moveAll vs).world
    let direct := ((ofWorker world w').moveAll vs').world
    let recordable (names : List (List UInt8)) : Option Row :=
      (Pipeline.ofConfig c w.backends).rowAfter A world.files (root.below names) none
    let excluded (names : List (List UInt8)) : Bool :=
      (root.below names).isExcluded (xs.map root.inside)
    w.config.root = FileTree.pathOf l ∧
    (∀ k row, linked.row? (.ofText k) = some row ↔ ∃ names,
      (world.files.at? (l ++ names)).isSome ∧ k = ((FileTree.pathOf l).below names).text ∧
        recordable names = some row) ∧
    (∀ k row, direct.row? (.ofText k) = some row ↔ ∃ names,
      (world.files.at? (l ++ names)).isSome ∧ k = (root.below names).text ∧
        recordable names = some row ∧ excluded names = false) ∧
    ((∀ names, (world.files.at? (l ++ names)).isSome →
        ((linked.row? ((FileTree.pathOf l).below names)).isSome ↔
          (direct.row? (root.below names)).isSome)) ↔
      ∀ names, (world.files.at? (l ++ names)).isSome → (recordable names).isSome →
        excluded names = false) := by
  intro linked direct recordable excluded
  obtain ⟨hdir, hresolved, hconfig, hbackends⟩ := Worker.start_eq_ok hstart
  obtain ⟨-, hresolved', hconfig', hbackends'⟩ := Worker.start_eq_ok hstart'
  have hat : world.files.isDirectoryAt l = true := by
    rwa [FileTree.isDirectory, FileTree.target?, hleads, Option.bind_some] at hdir
  -- the first root is resolved, the second one stays as it is
  have hfirst : w.config.root = FileTree.pathOf l := by
    rw [Worker.resolveRoot, hlink, FileTree.canonical?, hleads] at hresolved
    exact (Except.ok.inj hresolved).symm
  have hsecond : w'.config.root = root := by
    rw [Worker.resolveRoot, FileTree.kind?_of_directory hroot hat] at hresolved'
    exact (Except.ok.inj hresolved').symm
  have hpipeline : Pipeline.ofConfig w.config w.backends = Pipeline.ofConfig c w.backends := by
    rw [hconfig]
    rfl
  have hpipeline' : Pipeline.ofConfig w'.config w'.backends = Pipeline.ofConfig c w.backends := by
    rw [hconfig', hbackends', hbackends]
    rfl
  have hcanonical := FileTree.locate?_pathOf hfiles (FileTree.at?_isSome_of_directory hat)
  obtain ⟨hlinked, honly⟩ := worker_indexes_its_root world hempty hrefused w
    (by rw [hconfig]; exact hlimit) l ⟨hfiles, hnames, hfirst ▸ hcanonical, hat⟩ A vs h
  obtain ⟨hdirect, honly'⟩ := worker_indexes_its_root world hempty hrefused w'
    (by rw [hconfig']; exact hlimit) l ⟨hfiles, hnames, hsecond ▸ hroot, hat⟩ A vs' h'
  rw [hfirst, hpipeline, show w.config.excludedPrefixes = xs.map link.inside by rw [hconfig]]
    at hlinked honly
  rw [hsecond, hpipeline', show w'.config.excludedPrefixes = xs.map root.inside by rw [hconfig']]
    at hdirect honly'
  -- no prefix under the link excludes anything, and the rows do not depend on the spelling
  have hfree (names : List (List UInt8)) (hthere : (world.files.at? (l ++ names)).isSome) :
      ((FileTree.pathOf l).below names).isExcluded (xs.map link.inside) = false := by
    rw [FileTree.pathOf_below (hfiles.isName_of_at? hthere)]
    exact FileTree.not_excluded_by_link hfiles hnames hlink hthere xs
  have hsame (names : List (List UInt8)) (hthere : (world.files.at? (l ++ names)).isSome) :
      recordable names = (Pipeline.ofConfig c w.backends).rowAfter A world.files
        ((FileTree.pathOf l).below names) none :=
    Pipeline.rowAfter_below hfiles hroot hcanonical hat hthere (halike names)
  refine ⟨hfirst, fun k row => (honly k row).trans <| exists_congr fun names =>
    and_congr_right fun hthere => ?_, honly', forall₂_congr fun names hthere => ?_⟩
  · rw [hsame names hthere, hfree names hthere, and_iff_left rfl]
  · rw [hlinked names hthere, hfree names hthere, ← hsame names hthere, hdirect names hthere]
    show ((recordable names).isSome ↔ (if excluded names then none else recordable names).isSome) ↔
      _
    cases excluded names <;> simp

/-! ### A picture that is to be left out -/

/-- A directory `r` with a picture in `r/x`, and a link `l` to it. -/
def shelf : FileTree where
  entries :=
    let png : List UInt8 := [0x89, 0x50, 0x4E, 0x47, 0x0D, 0x0A, 0x1A, 0x0A]
    [([[0x72]], .directory 0), ([[0x72], [0x78]], .directory 0),
      ([[0x72], [0x78], [0x61, 0x2E, 0x70, 0x6E, 0x67]], .file ⟨png, 16⟩ 0),
      ([[0x6C]], .link ⟨[0x2F, 0x72]⟩)]

/-- A world with nothing else. -/
def atShelf : World := { wooded with files := shelf }

/-- A configuration without a limit that uses text recognition only. -/
def readsOnly : Config := { everyPicture with useContentClassifier := false }

/-- The worker with a root and excluded prefixes. -/
def shelfWorker (root : String) (excluded : List String) : Worker :=
  ⟨{ readsOnly with root := .ofText root, excludedPrefixes := excluded }, ⟨true, false⟩⟩

/-- After a second the gate arms, and the parties act in turn until all is done. -/
def launch : List Move :=
  [.become { atShelf with now := 1000 }, .gate, .deliver, .deliver] ++ rounds 3

lemma leftAlone_launch (w : Worker) : Along (fun s v => s.LeftAlone v ∧ s.Heeds clearing.may v)
    (ofWorker atShelf w) launch := by
  have hlater : IsWooded { atShelf with now := 1000 } := ⟨rfl, rfl, rfl⟩
  refine ⟨⟨.inr ⟨⟨fun _ => rfl, rfl, rfl⟩, by simp⟩, trivial⟩, along_clearing hlater fun v hv => ?_⟩
  have hcases : v = .gate ∨ v.IsInner := by
    rcases List.mem_append.mp (show v ∈ [.gate, .deliver, .deliver] ++ rounds 3 from hv) with
      hfirst | hround
    · have hsome : v = .gate ∨ v = .deliver ∨ v = .deliver := by simpa using hfirst
      exact hsome.imp_right fun hdeliver => .inl (hdeliver.elim id id)
    · exact .inr (isInner_of_mem_rounds hround)
  rcases hcases with rfl | rfl | ⟨i, rfl⟩
  · exact ⟨rfl, fun _ => .inl rfl⟩
  · exact ⟨rfl, fun _ => .inr ⟨trivial, by simp⟩⟩
  · exact ⟨rfl, fun _ => .inr ⟨trivial, by simp⟩⟩

lemma wellFormed_shelf : shelf.WellFormed where
  nodup := by decide +kernel
  isName := by decide +kernel
  above := by decide +kernel

lemma hasTextNames_shelf : shelf.HasTextNames := .of_bytes (by decide +kernel)

/-- With `x` excluded, the two workers do not have records of the same files. -/
theorem shelf_records_differ :
    let linked := (ofWorker atShelf (shelfWorker "/r" ["/l/x"])).moveAll launch
    let direct := (ofWorker atShelf (shelfWorker "/r/" ["/r/x"])).moveAll launch
    Worker.start shelf { readsOnly with
      root := .ofText "/l", excludedPrefixes := [(Path.ofText "/l").inside "x"] } true false =
        .ok (shelfWorker "/r" ["/l/x"]) ∧
    Worker.start shelf { readsOnly with
      root := .ofText "/r/", excludedPrefixes := [(Path.ofText "/r/").inside "x"] } true false =
        .ok (shelfWorker "/r/" ["/r/x"]) ∧
    ¬ ∀ names, (shelf.at? ([[0x72]] ++ names)).isSome →
      ((linked.world.row? ((FileTree.pathOf [[0x72]]).below names)).isSome ↔
        (direct.world.row? ((Path.ofText "/r/").below names)).isSome) := by
  intro linked direct
  have hstart : Worker.start shelf { readsOnly with
      root := .ofText "/l", excludedPrefixes := [(Path.ofText "/l").inside "x"] } true false =
        .ok (shelfWorker "/r" ["/l/x"]) := by
    rfl
  have hstart' : Worker.start shelf { readsOnly with
      root := .ofText "/r/", excludedPrefixes := [(Path.ofText "/r/").inside "x"] } true false =
        .ok (shelfWorker "/r/" ["/r/x"]) := by
    rfl
  have hcompletes : Completes clearing (ofWorker atShelf (shelfWorker "/r" ["/l/x"])) launch :=
    ⟨leftAlone_launch _, by decide +kernel, by decide +kernel, by decide +kernel,
      by decide +kernel⟩
  have hcompletes' : Completes clearing (ofWorker atShelf (shelfWorker "/r/" ["/r/x"])) launch :=
    ⟨leftAlone_launch _, by decide +kernel, by decide +kernel, by decide +kernel,
      by decide +kernel⟩
  obtain ⟨-, -, -, hsame⟩ := linked_root_voids_exclusions atShelf wellFormed_shelf
    hasTextNames_shelf rfl rfl readsOnly rfl (.ofText "/l") (.ofText "/r/") [[0x72]]
    (by decide +kernel) (by decide +kernel) (by decide +kernel) ["x"] true false _ _ hstart hstart'
    clearing (fun names => ⟨rfl, rfl, rfl⟩) launch launch hcompletes hcompletes'
  refine ⟨hstart, hstart', fun hall => ?_⟩
  have hadmitted := hsame.mp hall [[0x78], [0x61, 0x2E, 0x70, 0x6E, 0x67]] (by decide +kernel)
    (by decide +kernel)
  have hexcluded : ((Path.ofText "/r/").below [[0x78], [0x61, 0x2E, 0x70, 0x6E, 0x67]]).isExcluded
      [(Path.ofText "/r/").inside "x"] = true := by
    decide +kernel
  exact absurd (hexcluded.symm.trans hadmitted) (by simp)

/-- **Exclusions do not survive a linked root.**  The worker with the link for its root makes a
record of the picture; the one with the directory does not. -/
theorem linked_root_indexes_excluded_picture :
    let picture := Path.ofText "/r/x/a.png"
    let linked := shelfWorker "/r" ["/l/x"]
    let direct := shelfWorker "/r" ["/r/x"]
    shelf.kind? (.ofText "/l") = some .link ∧
    shelf.canonical? (.ofText "/l") = some (.ofText "/r") ∧
    Worker.start shelf { readsOnly with
      root := .ofText "/l", excludedPrefixes := ["/l/x"] } true false = .ok linked ∧
    Worker.start shelf { readsOnly with
      root := .ofText "/r", excludedPrefixes := ["/r/x"] } true false = .ok direct ∧
    Completes clearing (ofWorker atShelf linked) launch ∧
    Completes clearing (ofWorker atShelf direct) launch ∧
    (((ofWorker atShelf linked).moveAll launch).world.row? picture).isSome ∧
    ((ofWorker atShelf direct).moveAll launch).world.row? picture = none := by
  intro picture linked direct
  have hcompletes : Completes clearing (ofWorker atShelf linked) launch :=
    ⟨leftAlone_launch _, by decide +kernel, by decide +kernel, by decide +kernel,
      by decide +kernel⟩
  have hcompletes' : Completes clearing (ofWorker atShelf direct) launch :=
    ⟨leftAlone_launch _, by decide +kernel, by decide +kernel, by decide +kernel,
      by decide +kernel⟩
  exact ⟨by decide +kernel, by decide +kernel, rfl, rfl, hcompletes, hcompletes', by decide +kernel,
    by decide +kernel⟩

end Simulation.Session

end PictureIndex
