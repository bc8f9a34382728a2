import PictureIndex.Proofs.Provenance
import PictureIndex.Proofs.Resolution
/-!
# Removed directories

When a directory is gone, nothing is left at its path to tell that it was one.  The pipeline takes
a path without an extension for one that may have been a directory; it then has the store list the
recorded paths that are spelled as its own with more behind it, and these go back to the queue,
where excluded ones are turned away.  Of the others nothing is left on disk either
(`FileTree.kind?_below_missing`), and as paths of pictures they have an extension, so their records
are removed one by one.

`removed_directory_loses_descendants` says so for whole runs.  The descendants of a directory whose
name has an extension are not found, nor are excluded ones and those that are spelled otherwise
(`removed_directories_keep_descendants`).
-/

namespace PictureIndex

open Log

namespace Path

open Utf8

variable {d : Path} {k : String}

/-- Whether a text is that of a directory, slashes at its end not counted, with more behind it. -/
def isAbove (d : Path) (k : String) : Bool :=
  (d.text.toList.rdropWhile (· = '/') ++ ['/']).isPrefixOf k.toList

lemma encode_slash (cs : List Char) : encode ('/' :: cs) = slash :: encode cs := rfl

lemma encode_slashes (n : Nat) : encode (List.replicate n '/') = List.replicate n slash := by
  induction n with
  | zero => rfl
  | succ n ih => rw [List.replicate_succ, encode_slash, ih, List.replicate_succ]

/-- The text of a directory without the slashes at its end. -/
def core (d : Path) : List Char := d.text.toList.rdropWhile (· = '/')

lemma text_eq_core (d : Path) : ∃ n, d.text.toList = d.core ++ List.replicate n '/' := by
  refine ⟨(d.text.toList.rtakeWhile (· = '/')).length, ?_⟩
  have hslashes : d.text.toList.rtakeWhile (· = '/') =
      List.replicate (d.text.toList.rtakeWhile (· = '/')).length '/' :=
    List.eq_replicate_of_mem fun c hc => by simpa using List.mem_rtakeWhile_imp hc
  rw [← hslashes]
  exact (List.rdropWhile_append_rtakeWhile ..).symm

lemma extends_of_isAbove (h : d.isAbove k = true) : (ofText k).Extends d.respelled := by
  obtain ⟨rest, hrest⟩ := List.isPrefixOf_iff_prefix.mp h
  obtain ⟨n, hn⟩ := d.text_eq_core
  refine ⟨encode d.core, n, encode rest, ?_, ?_⟩
  · show encode d.text.toList = _
    rw [hn, encode_append, encode_slashes]
  · show encode k.toList = _
    rw [← hrest, List.append_assoc, encode_append]
    rfl

lemma IsProper.respelled (h : d.IsProper) : d.respelled.IsProper := by
  obtain ⟨habsolute, hzero⟩ := h
  constructor
  · simp only [isAbsolute, decide_eq_true_eq] at habsolute ⊢
    obtain ⟨rest, hrest⟩ : ∃ rest, d.bytes = slash :: rest := by
      cases hd : d.bytes with
      | nil => simp [hd] at habsolute
      | cons b rest =>
        rw [hd] at habsolute
        obtain rfl : b = slash := by simpa using habsolute
        exact ⟨rest, rfl⟩
    rw [respelled_bytes, hrest, respell_ascii slash_ascii]
    rfl
  · rw [respelled_bytes]
    exact fun hmem => hzero (mem_of_mem_respell hmem (by decide))

lemma zero_not_mem_directoryStart (h : 0 ∉ d.bytes) : '\x00' ∉ Store.directoryStart d.text := by
  intro hmem
  rw [Store.directoryStart, List.mem_append, List.mem_reverse] at hmem
  rcases hmem with hmem | hmem
  · have htext : '\x00' ∈ d.text.toList :=
      List.mem_reverse.mp ((List.dropWhile_sublist _).subset hmem)
    have hread : '\x00' ∈ decodeLossy d.bytes := by simpa [text, Text.ofBytesLossy] using htext
    exact h (mem_of_mem_decodeLossy hread (by decide))
  · exact absurd hmem (by decide)

end Path

namespace Pipeline

open Plan

variable {e : Pipeline} {files : FileTree} {may : (r : Request) → r.Answer → Prop} {a b : Store}
  {t : Table Row} {p : Path} {exhausted : Bool} {outcome : Outcome}

/-- Where nothing stands at a path with an extension, its record is removed. -/
lemma runs_missing_file (ht : a.pictures = some t) (hkind : files.kind? p = none)
    (hname : p.hasExtension = true)
    (hruns : Runs (Store.serves files may) a (e.process exhausted ⟨p, .examine⟩) outcome b) :
    outcome = .removed ∧ b = { a with pictures := some (t.erase p.text) } := by
  change Runs _ a (e.examine exhausted p) outcome b at hruns
  rw [examine_eq, runs_ask] at hruns
  obtain ⟨_, _, ⟨rfl, rfl⟩, hruns⟩ := hruns
  rw [hkind] at hruns
  change Runs _ _ (examineMissing p) outcome b at hruns
  rw [examineMissing, if_pos hname, removeRecord, request_bind, runs_ask] at hruns
  obtain ⟨_, _, hanswer, hdone⟩ := hruns
  obtain ⟨rfl, rfl⟩ := (Store.serves_remove ht).mp hanswer
  exact runs_done.mp hdone

/-- Where nothing stands at a path without an extension, the recorded paths below it are found. -/
lemma runs_missing_directory (ht : a.pictures = some t) (hkind : files.kind? p = none)
    (hname : p.hasExtension = false) (hzero : 0 ∉ p.bytes)
    (hruns : Runs (Store.serves files may) a (e.process exhausted ⟨p, .examine⟩) outcome b) :
    outcome = .staleDescendants ((t.keys.filter p.isAbove).map Path.ofText) ∧ b = a := by
  change Runs _ a (e.examine exhausted p) outcome b at hruns
  rw [examine_eq, runs_ask] at hruns
  obtain ⟨_, _, ⟨rfl, rfl⟩, hruns⟩ := hruns
  rw [hkind] at hruns
  change Runs _ _ (examineMissing p) outcome b at hruns
  rw [examineMissing, if_neg (by simp [hname]), request_bind, runs_ask] at hruns
  obtain ⟨answer, _, ⟨rfl, rfl⟩, hdone⟩ := hruns
  rw [Store.under_eq ht (Path.zero_not_mem_directoryStart hzero)] at hdone
  exact runs_done.mp hdone

end Pipeline

namespace Simulation

/-! ## The agenda of a removed directory -/

section

variable {d : Path} {t : Table Row} {excluded : List String}

/-- The items to which a directory leads that is gone: the recorded paths below it that are not
excluded. -/
def lost (d : Path) (t : Table Row) (excluded : List String) : List Item :=
  (Outcome.staleDescendants ((t.keys.filter d.isAbove).map Path.ofText)).followers excluded

lemma mem_lost {item : Item} : item ∈ lost d t excluded ↔ ∃ k ∈ t.keys, d.isAbove k = true ∧
    (Path.ofText k).isExcluded excluded = false ∧ item = ⟨Path.ofText k, .examine⟩ := by
  simp only [lost, Outcome.followers, Outcome.discovered, List.mem_map, List.mem_filter,
    Bool.not_eq_true']
  constructor
  · rintro ⟨_, ⟨⟨k, ⟨hk, habove⟩, rfl⟩, hadmitted⟩, rfl⟩
    exact ⟨k, hk, habove, hadmitted, rfl⟩
  · rintro ⟨k, hk, habove, hadmitted, rfl⟩
    exact ⟨_, ⟨⟨k, ⟨hk, habove⟩, rfl⟩, hadmitted⟩, rfl⟩

lemma mem_lost_ofText {k : String} : ⟨Path.ofText k, .examine⟩ ∈ lost d t excluded ↔
    k ∈ t.keys ∧ d.isAbove k = true ∧ (Path.ofText k).isExcluded excluded = false := by
  rw [mem_lost]
  constructor
  · rintro ⟨k', hk, habove, hadmitted, hsame⟩
    have htext := congrArg (fun item => item.path.text) hsame
    simp only [Path.text_ofText] at htext
    subst htext
    exact ⟨hk, habove, hadmitted⟩
  · rintro ⟨hk, habove, hadmitted⟩
    exact ⟨k, hk, habove, hadmitted, rfl⟩

/-- A store from which the records of some items have been removed. -/
def WithoutRecords (t : Table Row) (removed : List Item) (a : Store) : Prop :=
  ∃ t', a.pictures = some t' ∧
    ∀ k, t'.find? k = if ⟨Path.ofText k, .examine⟩ ∈ removed then none else t.find? k

variable {e : Pipeline} {limit : Option UInt32} {files : FileTree} {start : Store}

/-- What is known of a directory that is gone, and of the store. -/
structure Gone (files : FileTree) (start : Store) (t : Table Row) (d : Path) : Prop where
  /-- The store has a table. -/
  pictures_eq : start.pictures = some t
  /-- Its records are those of pictures. -/
  candidates : ∀ k row, t.find? k = some row → ∃ p : Path, p.isCandidate = true ∧ p.text = k
  /-- The path may lead somewhere. -/
  proper : d.IsProper
  /-- Nothing stands at the path. -/
  missing : files.kind? d = none
  /-- Nothing stands at the path that its text spells. -/
  missing_respelled : files.kind? d.respelled = none
  /-- It has no extension. -/
  hasExtension_eq : d.hasExtension = false

lemma Gone.hasExtension_of_mem_keys (h : Gone files start t d) {k : String} (hk : k ∈ t.keys) :
    (Path.ofText k).hasExtension = true := by
  obtain ⟨row, hrow⟩ := Option.isSome_iff_exists.mp (Table.mem_keys.mp hk)
  obtain ⟨p, hp, rfl⟩ := h.candidates k row hrow
  exact (Path.hasExtension_respelled p).trans (Path.hasExtension_of_isCandidate hp)

lemma Gone.path_ne (h : Gone files start t d) {item : Item} (hitem : item ∈ lost d t excluded) :
    item.path ≠ d := by
  obtain ⟨k, hk, -, -, rfl⟩ := mem_lost.mp hitem
  rintro rfl
  exact absurd (h.hasExtension_of_mem_keys hk) (by simp [h.hasExtension_eq])

/-- Nothing stands at the paths below it either. -/
lemma Gone.missing_below (h : Gone files start t d) {item : Item}
    (hitem : item ∈ lost d t excluded) : files.kind? item.path = none := by
  obtain ⟨k, -, habove, -, rfl⟩ := mem_lost.mp hitem
  exact FileTree.kind?_below_missing h.proper.respelled h.missing_respelled
    (Path.extends_of_isAbove habove)

/-- First comes the directory itself, which leads to its recorded descendants; and then these come,
whose records are removed. -/
def Gone.agenda (h : Gone files start t d) (e : Pipeline) (limit : Option UInt32)
    (excluded : List String) :
    Agenda e limit excluded files (fun _ _ _ => True) start ⟨d, .examine⟩ where
  items := ⟨d, .examine⟩ :: lost d t excluded
  followers item := if item.path = d then lost d t excluded else []
  Made done a := (done = [] → a = start) ∧ WithoutRecords t done.tail a
  rank item := if item.path = d then 0 else 1
  items_eq := by
    have hnone : (lost d t excluded).flatMap
        (fun item => if item.path = d then lost d t excluded else []) = [] := by
      rw [List.flatMap_eq_nil_iff]
      exact fun item hitem => if_neg (h.path_ne hitem)
    rw [List.flatMap_cons, hnone, if_pos rfl, List.append_nil]
  rank_lt x hx y hy := by
    by_cases hxd : x.path = d
    · rw [if_pos hxd] at hy ⊢
      rw [if_neg (h.path_ne hy)]
      exact Nat.zero_lt_one
    · rw [if_neg hxd] at hy
      exact nomatch hy
  made_nil := ⟨fun _ => rfl, t, h.pictures_eq, fun k => by simp⟩
  step done item rest a exhausted outcome b hitems hmade _ hruns := by
    cases done with
    | nil =>
      -- the directory itself, which leaves the store alone
      obtain ⟨rfl, -⟩ := List.cons.inj hitems
      obtain rfl := hmade.1 rfl
      obtain ⟨rfl, rfl⟩ := Pipeline.runs_missing_directory h.pictures_eq h.missing
        h.hasExtension_eq h.proper.2 hruns
      exact ⟨(if_pos rfl).symm, nofun, t, h.pictures_eq, fun k => by simp⟩
    | cons first done =>
      -- a path below it, where nothing is left either
      obtain ⟨rfl, hlost⟩ := List.cons.inj hitems
      have hitem : item ∈ lost d t excluded := by rw [hlost]; simp
      have hmissing := h.missing_below hitem
      obtain ⟨k, hk, -, -, rfl⟩ := mem_lost.mp hitem
      obtain ⟨-, t', ht', hfind⟩ := hmade
      obtain ⟨rfl, rfl⟩ := Pipeline.runs_missing_file ht' hmissing
        (h.hasExtension_of_mem_keys hk) hruns
      refine ⟨(if_neg (h.path_ne hitem)).symm, nofun, _, rfl, fun k' => ?_⟩
      rw [List.tail_cons] at hfind
      simp only [Path.text_ofText, Table.find?_erase, hfind, List.cons_append, List.tail_cons,
        List.mem_append, List.mem_singleton]
      by_cases hk' : k' = k
      · simp [hk']
      · have hne : (⟨Path.ofText k', .examine⟩ : Item) ≠ ⟨Path.ofText k, .examine⟩ := by
          intro hsame
          have htext := congrArg (fun item => item.path.text) hsame
          simp only [Path.text_ofText] at htext
          exact hk' htext
        simp [hk', hne]

end

namespace Session

/-- **A removed directory loses every descendant.**  Take a store that was written by processing
items, and let a path be submitted that is not excluded and that was a directory, but is gone.  Let
its name have no extension, unless it is an empty one; and if the path is no UTF-8, let nothing
stand at the path that its text spells either.  Then, in peace,

* when the queue is empty, the store has no record whose path is spelled as the directory's with
  more behind it and is not excluded, and all other records are as they were;
* and if nobody is put off for ever, the queue will be empty. -/
theorem removed_directory_loses_descendants (world : World) (hwritten : world.store.Written)
    (hrefused : world.refused = []) (hreturns : world.decoder.Returns) (c : Config)
    (backends : Backends) (d : Path) (hadmitted : d.isExcluded c.excludedPrefixes = false)
    (before : FileTree) (hwas : before.kind? d = some .directory)
    (hgone : world.files.kind? d = none) (hspelled : world.files.kind? d.respelled = none)
    (hname : d.hasExtension = false) (moves : Nat → Move)
    (hcalm : ∀ n, ((submitted world c backends d).after moves n).Calm (moves n)) :
    let s := submitted world c backends d
    (∀ n, (s.after moves n).scheduler.queue = [] →
      ∃ t t', world.store.pictures = some t ∧ (s.after moves n).world.store.pictures = some t' ∧
        ∀ k, t'.find? k =
          if d.isAbove k = true ∧ (Path.ofText k).isExcluded c.excludedPrefixes = false then none
          else t.find? k) ∧
    (s.Fair moves → ∃ n, (s.after moves n).scheduler.queue = []) := by
  intro s
  obtain ⟨t, ht, hcandidates⟩ := hwritten.ofCandidates
  obtain ⟨l, -, hl, -, -⟩ := FileTree.kind?_eq_some.mp hwas
  have hlost : Gone world.files world.store t d :=
    ⟨ht, hcandidates, FileTree.proper_of_locate? hl, hgone, hspelled, hname⟩
  let A := hlost.agenda (Pipeline.ofConfig c backends) c.indexingLimit c.excludedPrefixes
  obtain ⟨hall, hdrains⟩ := submitted_follows hrefused hadmitted A hcalm fun n => heeds_anything _ _
  refine ⟨fun n hqueue => ?_, hdrains hreturns fun item hitem hbroken => ?_⟩
  swap
  · -- nothing stands at any of these paths, so no picture does
    have hmissing : world.files.kind? item.path = none := by
      rcases List.mem_cons.mp hitem with rfl | hbelow
      · exact hgone
      · exact hlost.missing_below hbelow
    have hpicture := hbroken.picture
    simp [FileTree.holdsPicture, hmissing] at hpicture
  obtain ⟨-, -, t', ht', hfind⟩ := (hall n).2 hqueue
  refine ⟨t, t', ht, ht', fun k => ?_⟩
  have hk : t'.find? k =
      if ⟨Path.ofText k, .examine⟩ ∈ lost d t c.excludedPrefixes then none else t.find? k := hfind k
  rw [hk]
  by_cases hrecorded : k ∈ t.keys
  · simp only [mem_lost_ofText, hrecorded, true_and]
  · have hnone : t.find? k = none := by
      rw [← Option.not_isSome_iff_eq_none, ← Table.mem_keys]
      exact hrecorded
    simp [hnone]

/-! ### Descendants that go, and descendants that stay -/

/-- The world in which a picture was annotated before the files became others. -/
@[irreducible] def changed (before after : FileTree) (picture : Path) : World :=
  let w := { twoPictures with files := before }
  let e := Pipeline.ofConfig onePicture ⟨true, false⟩
  { (w.carryOut false (e.process false ⟨picture, .examine⟩)).2.2 with files := after }

lemma changed_sound (before after : FileTree) (picture : Path) :
    let w := changed before after picture
    w.store.Written ∧ w.refused = [] ∧ w.decoder.Returns := by
  have hwritten := World.written_carryOut (w := { twoPictures with files := before }) rfl
    (.empty _) (Pipeline.ofConfig onePicture ⟨true, false⟩) false ⟨picture, .examine⟩ false
  obtain ⟨-, hrefused, hdecoder⟩ := World.carryOut_frame { twoPictures with files := before }
    ((Pipeline.ofConfig onePicture ⟨true, false⟩).process false ⟨picture, .examine⟩) false
  simp only [changed]
  generalize World.carryOut _ _ _ = result at hwritten hrefused hdecoder ⊢
  have hreturns : (Decoder.scripted [] []).Returns := rfl
  exact ⟨hwritten, hrefused, hdecoder ▸ hreturns⟩

/-- A directory `n` in which one of this name holds a picture. -/
def album (name : List UInt8) : FileTree where
  entries :=
    let png : List UInt8 := [0x89, 0x50, 0x4E, 0x47, 0x0D, 0x0A, 0x1A, 0x0A]
    [([[0x6E]], .directory 0), ([[0x6E], name], .directory 0),
      ([[0x6E], name, [0x61, 0x2E, 0x70, 0x6E, 0x67]], .file ⟨png, 16⟩ 0)]

/-- The directory `n` when it is empty. -/
def noAlbum : FileTree := ⟨[([[0x6E]], .directory 0)]⟩

/-- The parties act in turn until a directory and one path below it have been looked at. -/
def inTurn : List Move :=
  List.flatten [List.replicate 3 (.task 0), [.deliver], List.replicate 7 (.task 0), [.deliver]]

/-- The only picture of a directory that is gone loses its record. -/
theorem removed_directory_loses_picture :
    let d := Path.ofText "/n/trip"
    let picture := Path.ofText "/n/trip/a.png"
    let before := album [0x74, 0x72, 0x69, 0x70]
    let world := changed before noAlbum picture
    let moves (n : Nat) : Move := inTurn.getD n .deliver
    world.store.Written ∧ world.refused = [] ∧ world.decoder.Returns ∧
      d.isExcluded onePicture.excludedPrefixes = false ∧ before.kind? d = some .directory ∧
      world.files.kind? d = none ∧ world.files.kind? d.respelled = none ∧
      d.hasExtension = false ∧
      (∀ n, ((submitted world onePicture ⟨true, false⟩ d).after moves n).Calm (moves n)) ∧
      ((submitted world onePicture ⟨true, false⟩ d).after moves 12).scheduler.queue = [] ∧
      (∃ t, world.store.pictures = some t ∧ (t.find? picture.text).isSome) ∧
      ∃ t', ((submitted world onePicture ⟨true, false⟩ d).after moves 12).world.store.pictures =
        some t' ∧ t'.find? picture.text = none := by
  intro d picture before world moves
  obtain ⟨hwritten, hrefused, hreturns⟩ := changed_sound before noAlbum picture
  have hadmitted : d.isExcluded onePicture.excludedPrefixes = false := by decide +kernel
  have hwas : before.kind? d = some .directory := by decide +kernel
  have hgone : world.files.kind? d = none := by decide +kernel
  have hspelled : world.files.kind? d.respelled = none := by decide +kernel
  have hname : d.hasExtension = false := by decide +kernel
  have hcalm (n : Nat) :
      ((submitted world onePicture ⟨true, false⟩ d).after moves n).Calm (moves n) :=
    calm_of_isInner (Move.isInner_getD (by simp [inTurn, Move.IsInner]) n) _
  have hqueue :
      ((submitted world onePicture ⟨true, false⟩ d).after moves 12).scheduler.queue = [] := by
    decide +kernel
  have habove : d.isAbove picture.text = true ∧
      (Path.ofText picture.text).isExcluded onePicture.excludedPrefixes = false := by
    decide +kernel
  have hrecorded : (world.store.pictures.bind fun t => t.find? picture.text).isSome := by
    decide +kernel
  obtain ⟨hdrained, -⟩ := removed_directory_loses_descendants world hwritten hrefused hreturns
    onePicture ⟨true, false⟩ d hadmitted before hwas hgone hspelled hname moves hcalm
  obtain ⟨t, t', ht, ht', hfind⟩ := hdrained 12 hqueue
  rw [ht] at hrecorded
  refine ⟨hwritten, hrefused, hreturns, hadmitted, hwas, hgone, hspelled, hname, hcalm, hqueue,
    ⟨t, ht, hrecorded⟩, t', ht', ?_⟩
  rw [hfind, if_pos habove]

/-- Whether the record of a picture below a directory is still there after the directory is gone,
its path was submitted, and the queue has run empty. -/
def Stays (c : Config) (before after : FileTree) (d picture : Path) : Prop :=
  let world := changed before after picture
  let s := (submitted world c ⟨true, false⟩ d).moveAll inTurn
  d.isExcluded c.excludedPrefixes = false ∧ before.kind? d = some .directory ∧
    after.kind? d = none ∧
    FileTree.plainNames d.bytes <+: (FileTree.plainNames picture.bytes).dropLast ∧
    s.scheduler.stopped = false ∧ s.scheduler.queue = [] ∧
    (s.world.store.pictures.bind (·.find? picture.text)).isSome

instance (c : Config) (before after : FileTree) (d picture : Path) :
    Decidable (Stays c before after d picture) := by
  unfold Stays
  infer_instance

/-- A picture stays recorded if the name of the directory that is gone has an extension; if the
pictures in it, but not the directory, are excluded; if another directory's path is spelled as the
one that is gone, which is no UTF-8; and if the path is submitted with a slash too many. -/
theorem removed_directories_keep_descendants :
    let trip : List UInt8 := [0x74, 0x72, 0x69, 0x70]
    let dated : List UInt8 := trip ++ [0x2E, 0x32, 0x30, 0x31, 0x39]
    let unreadable : FileTree := ⟨(album [0xFF]).entries ++ (album [0xEF, 0xBF, 0xBD]).entries.tail⟩
    (∀ before after picture, let w := changed before after picture
      w.store.Written ∧ w.refused = [] ∧ w.decoder.Returns) ∧
      Stays onePicture (album dated) noAlbum (.ofText "/n/trip.2019")
        (.ofText "/n/trip.2019/a.png") ∧
      Stays { onePicture with excludedPrefixes := ["/n/trip/"] } (album trip) noAlbum
        (.ofText "/n/trip") (.ofText "/n/trip/a.png") ∧
      Stays onePicture unreadable (album [0xEF, 0xBF, 0xBD]) ⟨[0x2F, 0x6E, 0x2F, 0xFF]⟩
        ⟨[0x2F, 0x6E, 0x2F, 0xFF, 0x2F, 0x61, 0x2E, 0x70, 0x6E, 0x67]⟩ ∧
      Stays onePicture (album trip) noAlbum (.ofText "/n//trip") (.ofText "/n/trip/a.png") := by
  constructor
  · exact changed_sound
  · decide +kernel

end Session

end Simulation

end PictureIndex
