import PictureIndex.Inspection
import PictureIndex.Proofs.PathTexts
/-!
# Where paths lead

A path is resolved by a walk over its names, and links on the way may take it anywhere.  Still, a
path that is another one with more names behind it leads on from where that one leads
(`walk_append`).  Two things follow.  Below a path at which nothing stands, nothing stands
(`kind?_below_missing`).  And an entry of a directory is found under the path of the directory with
the entry's name behind it (`locate?_entry`).
-/

namespace PictureIndex

namespace Path

/-- Whether a path may lead anywhere: it is absolute and without zero bytes. -/
def IsProper (p : Path) : Prop := p.isAbsolute = true ∧ 0 ∉ p.bytes

/-- Whether a path is spelled as another one, slashes at its end not counted, with something behind
a slash. -/
def Extends (q p : Path) : Prop :=
  ∃ core n rest, p.bytes = core ++ List.replicate n slash ∧ q.bytes = core ++ slash :: rest

/-- Whether an entry of a directory can be asked for by a name. -/
structure IsName (name : List UInt8) : Prop where
  /-- It is not empty. -/
  ne_nil : name ≠ []
  /-- It is one name. -/
  slash_not_mem : slash ∉ name
  /-- It has no zero byte. -/
  zero_not_mem : 0 ∉ name
  /-- It does not mean the directory itself. -/
  ne_dot : name ≠ [dot]
  /-- It does not mean the directory above. -/
  ne_dots : name ≠ [dot, dot]

instance (name : List UInt8) : Decidable (IsName name) :=
  decidable_of_iff
    (name ≠ [] ∧ slash ∉ name ∧ 0 ∉ name ∧ name ≠ [dot] ∧ name ≠ [dot, dot])
    ⟨fun ⟨h1, h2, h3, h4, h5⟩ => ⟨h1, h2, h3, h4, h5⟩,
      fun ⟨h1, h2, h3, h4, h5⟩ => ⟨h1, h2, h3, h4, h5⟩⟩

end Path

namespace FileTree

open PictureIndex.Path (slash dot splitSlash)

variable {t : FileTree} {ending : Ending} {links : Nat} {here : Location} {p q : Path}

/-- How a walk that may pass so many links goes on behind a link. -/
def behind (t : FileTree) (ending : Ending) :
    Nat → Location → List (List UInt8) → Option Location
  | 0 => fun _ _ => none
  | links + 1 => t.walk ending links

lemma walk_eq (links : Nat) : t.walk ending links = t.stretch ending (t.behind ending links) := by
  cases links <;> rfl

@[simp] lemma walk_nil : t.walk ending links here [] = some here := by
  cases links <;> rfl

/-- A walk that goes on is a walk to what a name stands for, and then another one. -/
theorem walk_append (t : FileTree) (links : Nat) (here : Location) (names : List (List UInt8)) :
    ∃ k, ∀ ending more, more ≠ [] → t.walk ending links here (names ++ more) =
      (t.walk .target links here names).bind fun l => t.walk ending k l more := by
  induction links using Nat.strongRecOn generalizing here names with
  | _ links ihl =>
    have hbehind (start : Location) (names : List (List UInt8)) : ∃ k, ∀ ending more, more ≠ [] →
        t.behind ending links start (names ++ more) =
          (t.behind .target links start names).bind fun l => t.walk ending k l more := by
      cases links with
      | zero => exact ⟨0, fun _ _ _ => rfl⟩
      | succ links => exact ihl links (Nat.lt_succ_self links) start names
    induction names generalizing here with
    | nil => exact ⟨links, fun ending more _ => by simp⟩
    | cons name rest ih =>
      simp only [walk_eq, List.cons_append, stretch] at ih hbehind ⊢
      by_cases hdir : t.isDirectoryAt here
      swap
      · exact ⟨0, fun ending more _ => by simp [hdir]⟩
      simp only [hdir, Bool.not_true, Bool.false_eq_true, if_false]
      split
      · exact ih here
      split
      · exact ih here.dropLast
      cases hat : t.at? (here ++ [name]) with
      | none => exact ⟨0, fun ending more hmore => by simp [hmore]⟩
      | some e =>
        cases e with
        | link target =>
          -- with more names to come, the link is followed whatever the ending is
          by_cases hempty : target.bytes.isEmpty
          · exact ⟨0, fun ending more hmore => by simp [hmore, hempty]⟩
          · obtain ⟨k, hk⟩ :=
              hbehind (if target.isAbsolute then [] else here) (namesOf target ++ rest)
            refine ⟨k, fun ending more hmore => ?_⟩
            have hgo := hk ending more hmore
            rw [List.append_assoc] at hgo
            simpa [hmore, hempty] using hgo
        | _ => exact ih (here ++ [name])

lemma walk_dot (t : FileTree) (ending : Ending) (links : Nat) (here : Location) :
    t.walk ending links here [[dot]] = if t.isDirectoryAt here then some here else none := by
  rw [walk_eq, stretch]
  cases t.isDirectoryAt here <;> simp [stretch]

/-- A walk to an entry itself and one to what it stands for differ only where a link stands. -/
lemma walk_itself (t : FileTree) (links : Nat) (here : Location) (names : List (List UInt8)) :
    t.walk .itself links here names = t.walk .target links here names ∨
      ∃ l target, t.walk .itself links here names = some l ∧ t.at? l = some (.link target) := by
  have hone (k : Nat) (l : Location) (name : List UInt8) :
      t.walk .itself k l [name] = t.walk .target k l [name] ∨
        ∃ target, t.walk .itself k l [name] = some (l ++ [name]) ∧
          t.at? (l ++ [name]) = some (.link target) := by
    simp only [walk_eq, stretch]
    split
    · exact .inl rfl
    split
    · exact .inl rfl
    split
    · exact .inl rfl
    cases hat : t.at? (l ++ [name]) with
    | none => exact .inl rfl
    | some e =>
      cases e with
      | link target => exact .inr ⟨target, rfl, rfl⟩
      | _ => exact .inl rfl
  rcases List.eq_nil_or_concat names with rfl | ⟨front, name, rfl⟩
  · exact .inl (by simp)
  · rw [List.concat_eq_append]
    obtain ⟨k, hk⟩ := t.walk_append links here front
    rw [hk .itself [name] nofun, hk .target [name] nofun]
    cases t.walk .target links here front with
    | none => exact .inl rfl
    | some l =>
      rcases hone k l name with hsame | ⟨target, hitself, hlink⟩
      · exact .inl hsame
      · exact .inr ⟨_, target, hitself, hlink⟩

lemma walk_target_of_itself {l : Location} {names : List (List UInt8)}
    (h : t.walk .itself links here names = some l)
    (hlink : ∀ target, t.at? l ≠ some (.link target)) :
    t.walk .target links here names = some l := by
  rcases t.walk_itself links here names with hsame | ⟨l', target, hitself, hat⟩
  · rw [← hsame, h]
  · obtain rfl := Option.some.inj (h.symm.trans hitself)
    exact absurd hat (hlink target)

/-! ## The names of a path -/

/-- The names between slashes. -/
def plainNames (bs : List UInt8) : List (List UInt8) := (splitSlash bs).filter (!·.isEmpty)

lemma plainNames_append (bs rest : List UInt8) :
    plainNames (bs ++ slash :: rest) = plainNames bs ++ plainNames rest := by
  rw [plainNames, Path.splitSlash_append, List.filter_append]
  rfl

@[simp] lemma plainNames_nil : plainNames [] = [] := rfl

/-- Slashes at the end add no name. -/
lemma plainNames_slashes (bs : List UInt8) (n : Nat) :
    plainNames (bs ++ List.replicate n slash) = plainNames bs := by
  induction n with
  | zero => rw [List.replicate_zero, List.append_nil]
  | succ n ih =>
    rw [List.replicate_succ', ← List.append_assoc, plainNames_append, plainNames_nil,
      List.append_nil, ih]

lemma plainNames_name {name : List UInt8} (hne : name ≠ []) (hslash : slash ∉ name) :
    plainNames name = [name] := by
  rw [plainNames, Path.splitSlash_of_not_mem hslash]
  simp [hne]

lemma namesOf_eq (p : Path) : namesOf p = if plainNames p.bytes = [] then []
    else if p.bytes.getLast? = some slash then plainNames p.bytes ++ [[dot]]
    else plainNames p.bytes := by
  rw [namesOf]
  simp only [List.isEmpty_iff]
  rfl

/-- A path that does not end with a slash has a name at its end. -/
lemma plainNames_ne_nil {bs : List UInt8} (hne : bs ≠ []) (hlast : bs.getLast? ≠ some slash) :
    plainNames bs ≠ [] := by
  by_cases hslash : slash ∈ bs
  · obtain ⟨x, y, hxy, hx⟩ := List.eq_append_cons_of_mem (List.mem_reverse.mpr hslash)
    have hbs : bs = y.reverse ++ slash :: x.reverse := by
      have hsame := congrArg List.reverse hxy
      simpa using hsame
    have hnot : slash ∉ x.reverse := fun h => hx (List.mem_reverse.mp h)
    have hname : x.reverse ≠ [] := by
      intro hnil
      rw [hbs, hnil] at hlast
      exact hlast (by simp)
    rw [hbs, plainNames_append, plainNames_name hname hnot]
    simp
  · rw [plainNames_name hne hslash]
    nofun

/-! ## Below a path -/

/-- Where the names of a path lead, slashes at its end not counted. -/
def base? (t : FileTree) (p : Path) : Option Location :=
  t.walk .target mostLinks [] (plainNames p.bytes)

lemma locate?_of_proper (hp : p.IsProper) (ending : Ending) :
    t.locate? ending p = t.walk ending mostLinks [] (namesOf p) := by
  have hzero : p.bytes.contains 0 = false := by simpa using hp.2
  rw [locate?, hp.1, hzero]
  rfl

lemma proper_of_locate? {l : Location} (h : t.locate? ending p = some l) : p.IsProper := by
  rw [locate?] at h
  split at h
  · rename_i hp
    simpa [Path.IsProper] using hp
  · exact nomatch h

lemma ne_nil_of_locate? {l : Location} (h : t.locate? ending p = some l) : p.bytes ≠ [] := by
  intro hnil
  have habsolute := (proper_of_locate? h).1
  rw [Path.isAbsolute, hnil] at habsolute
  exact absurd habsolute (by decide)

lemma kind?_eq_some {kind : EntryKind} :
    t.kind? p = some kind ↔ ∃ l e, t.locate? .itself p = some l ∧ t.at? l = some e ∧
      e.kind = kind := by
  simp only [kind?, entry?, Option.map_eq_some_iff, Option.bind_eq_some_iff]
  constructor
  · rintro ⟨e, ⟨l, hl, he⟩, hkind⟩
    exact ⟨l, e, hl, he, hkind⟩
  · rintro ⟨l, e, hl, he, hkind⟩
    exact ⟨e, ⟨l, hl, he⟩, hkind⟩

/-- A directory is where its names lead. -/
lemma base?_of_directory (h : t.kind? p = some .directory) :
    ∃ l, t.base? p = some l ∧ t.isDirectoryAt l = true ∧ t.locate? .itself p = some l ∧
      t.locate? .target p = some l := by
  obtain ⟨l, e, hl, he, hkind⟩ := kind?_eq_some.mp h
  obtain ⟨modified, rfl⟩ : ∃ modified, e = .directory modified := by
    cases e <;> simp [Entry.kind] at hkind
    exact ⟨_, rfl⟩
  have hp := proper_of_locate? hl
  have hdir : t.isDirectoryAt l = true := by
    rw [isDirectoryAt, he]
    rfl
  have htarget : t.walk .target mostLinks [] (namesOf p) = some l := by
    rw [locate?_of_proper hp] at hl
    exact walk_target_of_itself hl fun target hlink => nomatch he.symm.trans hlink
  refine ⟨l, ?_, hdir, hl, by rw [locate?_of_proper hp, htarget]⟩
  rw [namesOf_eq] at htarget
  rw [base?]
  split at htarget
  · rename_i hnone
    rw [hnone]
    exact htarget
  · split at htarget
    · obtain ⟨k, hk⟩ := t.walk_append mostLinks [] (plainNames p.bytes)
      rw [hk .target [[dot]] nofun] at htarget
      obtain ⟨l', hbase, hdot⟩ := Option.bind_eq_some_iff.mp htarget
      rw [walk_dot] at hdot
      split at hdot
      · rw [hbase, hdot]
      · exact nomatch hdot
    · exact htarget

/-- Where nothing stands there is no directory. -/
lemma base?_of_missing (hp : p.IsProper) (h : t.kind? p = none) {l : Location}
    (hbase : t.base? p = some l) : t.isDirectoryAt l = false := by
  have hnothing {l : Location} (hl : t.walk .itself mostLinks [] (namesOf p) = some l) :
      t.at? l = none := by
    rw [← locate?_of_proper hp] at hl
    cases he : t.at? l with
    | none => rfl
    | some e => exact nomatch h.symm.trans (kind?_eq_some.mpr ⟨l, e, hl, he, rfl⟩)
  rw [base?] at hbase
  rw [namesOf_eq] at hnothing
  split at hnothing
  · -- the root is always there
    have hroot : t.walk .itself mostLinks [] [] = some [] := walk_nil
    exact nomatch hnothing hroot
  · split at hnothing
    · rw [← Bool.not_eq_true]
      intro hdir
      obtain ⟨k, hk⟩ := t.walk_append mostLinks [] (plainNames p.bytes)
      have hdot : t.walk .itself mostLinks [] (plainNames p.bytes ++ [[dot]]) = some l := by
        rw [hk .itself [[dot]] nofun, hbase, Option.bind_some, walk_dot, if_pos hdir]
      rw [isDirectoryAt, hnothing hdot] at hdir
      exact nomatch hdir
    · rcases t.walk_itself mostLinks [] (plainNames p.bytes) with hsame | ⟨l', target, hl', hlink⟩
      · rw [isDirectoryAt, hnothing (hsame.trans hbase)]
        rfl
      · exact nomatch (hnothing hl').symm.trans hlink

lemma walk_of_not_directory (h : t.isDirectoryAt here = false) {names : List (List UInt8)}
    (hnames : names ≠ []) : t.walk ending links here names = none := by
  obtain ⟨name, rest, rfl⟩ := List.exists_cons_of_ne_nil hnames
  rw [walk_eq, stretch, h]
  rfl

/-- **Nothing stands below a path at which nothing stands.** -/
theorem kind?_below_missing (hp : p.IsProper) (h : t.kind? p = none) (hq : q.Extends p) :
    t.kind? q = none := by
  obtain ⟨core, n, rest, hcore, hrest⟩ := hq
  by_contra hsome
  obtain ⟨kind, hkind⟩ := Option.ne_none_iff_exists'.mp hsome
  obtain ⟨l, -, hl, -, -⟩ := kind?_eq_some.mp hkind
  rw [locate?_of_proper (proper_of_locate? hl)] at hl
  have hbase {m : Location} := base?_of_missing hp h (l := m)
  rw [base?, hcore, plainNames_slashes] at hbase
  have hnames : plainNames q.bytes = plainNames core ++ plainNames rest := by
    rw [hrest, plainNames_append]
  have hcore_ne : plainNames core ≠ [] := by
    intro hnil
    rw [hnil] at hbase
    exact nomatch hbase walk_nil
  obtain ⟨more, hmore, hsplit⟩ : ∃ more, more ≠ [] ∧ namesOf q = plainNames core ++ more := by
    rw [namesOf_eq, if_neg (by simp [hnames, hcore_ne]), hnames]
    split
    · exact ⟨plainNames rest ++ [[dot]], by simp, List.append_assoc ..⟩
    · rename_i hlast
      refine ⟨plainNames rest, ?_, rfl⟩
      rw [hrest] at hlast
      have hrest_ne : rest ≠ [] := by
        rintro rfl
        exact hlast (by simp)
      refine plainNames_ne_nil hrest_ne fun hend => hlast ?_
      rw [List.getLast?_append, List.getLast?_cons, hend]
      rfl
  obtain ⟨k, hk⟩ := t.walk_append mostLinks [] (plainNames core)
  rw [hsplit, hk .itself more hmore] at hl
  obtain ⟨m, hm, hgo⟩ := Option.bind_eq_some_iff.mp hl
  rw [walk_of_not_directory (hbase hm) hmore] at hgo
  exact nomatch hgo

/-! ## Entries of a directory -/

lemma entry_bytes (hp : p.bytes ≠ []) (name : List UInt8) :
    ∃ core n, p.bytes = core ++ List.replicate n slash ∧
      (p.entry name).bytes = core ++ slash :: name := by
  rw [Path.entry]
  by_cases hlast : p.bytes.getLast? = some slash
  · have hcore : p.bytes = p.bytes.dropLast ++ [slash] := by
      rw [List.getLast?_eq_some_getLast hp, Option.some.injEq] at hlast
      rw [← hlast, List.dropLast_append_getLast hp]
    refine ⟨p.bytes.dropLast, 1, hcore, ?_⟩
    rw [if_pos (.inr hlast)]
    show p.bytes ++ name = _
    rw [hcore]
    simp
  · refine ⟨p.bytes, 0, by simp, ?_⟩
    rw [if_neg (by simp [hp, hlast])]

/-- **An entry of a directory is found under its name.** -/
theorem locate?_entry (h : t.kind? p = some .directory) {l : Location} (hl : t.base? p = some l)
    {name : List UInt8} (hname : Path.IsName name) {e : Entry}
    (he : t.at? (l ++ [name]) = some e) :
    t.locate? .itself (p.entry name) = some (l ++ [name]) := by
  obtain ⟨l', hbase, hdir, hlocate, -⟩ := base?_of_directory h
  obtain rfl := Option.some.inj (hl.symm.trans hbase)
  obtain ⟨habsolute, hzero⟩ := proper_of_locate? hlocate
  obtain ⟨core, n, hcore, hentry⟩ := entry_bytes (ne_nil_of_locate? hlocate) name
  have hproper : (p.entry name).IsProper := by
    constructor
    · rw [Path.isAbsolute, hcore] at habsolute
      rw [Path.isAbsolute, hentry]
      cases core with
      | nil => rfl
      | cons b core => exact habsolute
    · rw [hcore] at hzero
      rw [hentry]
      simp only [List.mem_append, List.mem_cons, not_or] at hzero ⊢
      exact ⟨hzero.1, by decide, hname.zero_not_mem⟩
  have hnames : plainNames (p.entry name).bytes = plainNames p.bytes ++ [name] := by
    rw [hentry, hcore, plainNames_append, plainNames_slashes,
      plainNames_name hname.ne_nil hname.slash_not_mem]
  have hlast : (p.entry name).bytes.getLast? ≠ some slash := by
    rw [hentry, List.getLast?_append, List.getLast?_cons,
      List.getLast?_eq_some_getLast hname.ne_nil]
    intro hend
    have hsame : name.getLast hname.ne_nil = slash := by simpa using hend
    exact hname.slash_not_mem (hsame ▸ List.getLast_mem hname.ne_nil)
  rw [locate?_of_proper hproper, namesOf_eq, if_neg (by simp [hnames]), if_neg hlast, hnames]
  obtain ⟨k, hk⟩ := t.walk_append mostLinks [] (plainNames p.bytes)
  rw [base?] at hl
  rw [hk .itself [name] nofun, hl, Option.bind_some, walk_eq, stretch, hdir, he]
  simp only [Bool.not_true, Bool.false_eq_true, if_false, if_neg hname.ne_dot,
    if_neg hname.ne_dots]
  cases e <;> simp [stretch]

/-- What a directory lists are the paths of its entries. -/
lemma list_of_directory (h : t.kind? p = some .directory) {l : Location}
    (hl : t.base? p = some l) : t.list p = (t.names l).map p.entry := by
  obtain ⟨l', hbase, hdir, -, htarget⟩ := base?_of_directory h
  obtain rfl := Option.some.inj (hl.symm.trans hbase)
  rw [list, htarget]
  exact if_pos hdir

/-- Where a path ends with a slash there is a directory or nothing. -/
lemma kind?_of_slash {p : Path} (h : p.bytes.getLast? = some slash) {kind : EntryKind}
    (hkind : t.kind? p = some kind) : kind = .directory := by
  obtain ⟨l, e, hl, he, rfl⟩ := kind?_eq_some.mp hkind
  have hdir : t.isDirectoryAt l = true := by
    rw [locate?_of_proper (proper_of_locate? hl), namesOf_eq, if_pos h] at hl
    split at hl
    · rw [walk_nil] at hl
      rw [← Option.some.inj hl]
      rfl
    · obtain ⟨more, hmore⟩ := t.walk_append mostLinks [] (plainNames p.bytes)
      rw [hmore .itself [[dot]] nofun] at hl
      obtain ⟨l', -, hdot⟩ := Option.bind_eq_some_iff.mp hl
      rw [walk_dot] at hdot
      split at hdot
      · rwa [← Option.some.inj hdot]
      · cases hdot
  rw [isDirectoryAt, he, Option.any_some] at hdir
  cases e with
  | directory modified => rfl
  | _ => cases hdir

end FileTree

end PictureIndex
