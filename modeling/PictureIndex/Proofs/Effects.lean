import PictureIndex.Proofs.FullPass
import PictureIndex.Proofs.ListingOrder
import PictureIndex.Proofs.RemovedDirectory
import PictureIndex.Proofs.SettledPictures
/-!
# What a single item does

Where what is found out about a picture depends on its path only (`Findings`), so does what an item
does to the store: it changes the row of its own path and no other, and the new row is a function of
the old one (`Pipeline.effect`).  The paths that it leads to are the entries of a directory, in any
order, or the recorded texts that the store lists below a directory that is gone (`LeadsTo`).

`Pipeline.runs_process` says so of whole plans.
-/

namespace PictureIndex

open Log

/-- What the decoder and the backends find out about the picture at a path. -/
structure Findings extends Readings where
  /-- The decoded picture, unless decoding fails. -/
  picture : Path → Option Bitmap

/-- Whether an answer is the one that is found out. -/
def Findings.may (A : Findings) (p : Path) : (r : Request) → r.Answer → Prop
  | .decode q, b => b = A.picture q
  | .recognise _, a => a = A.text p
  | .classify q, a => a = A.labels q
  | _, _ => True

namespace Path

/-! ## What the store lists -/

variable {d : Path} {k k' : String}

/-- Whether the store lists a recorded text as one below a directory. -/
def Lists (d : Path) (k : String) : Prop :=
  '\x00' ∉ Store.directoryStart d.text ∧ d.isAbove k = true

/-- What is listed below a listed text is listed itself. -/
lemma Lists.trans (h : d.Lists k) (h' : (ofText k).Lists k') : d.Lists k' := by
  refine ⟨h.1, ?_⟩
  obtain ⟨rest, hrest⟩ := List.isPrefixOf_iff_prefix.mp h.2
  have hbelow := List.isPrefixOf_iff_prefix.mp h'.2
  rw [text_ofText, ← hrest] at hbelow
  refine List.isPrefixOf_iff_prefix.mpr (List.IsPrefix.trans ?_ hbelow)
  set core := d.text.toList.rdropWhile (· = '/') with hcore
  have hlast : core.rdropWhile (· = '/') = core := List.rdropWhile_idempotent ..
  rw [List.rdropWhile, List.reverse_append, List.reverse_append, List.dropWhile_append]
  split
  · -- only slashes follow
    show core ++ ['/'] <+: (('/' :: core.reverse).dropWhile _).reverse ++ ['/']
    rw [List.dropWhile_cons_of_pos (by simp), ← List.rdropWhile, hlast]
  · simp

end Path

/-- To which paths an item leads, if these texts have a record. -/
inductive LeadsTo (files : FileTree) (recorded : String → Prop) : Item → Path → Prop
  /-- To the entries of a directory. -/
  | entry {p q : Path} (hkind : files.kind? p = some .directory) (hq : q ∈ files.list p) :
    LeadsTo files recorded ⟨p, .examine⟩ q
  /-- To the recorded paths below a directory that is gone. -/
  | below {p : Path} {k : String} (hkind : files.kind? p = none) (hname : p.hasExtension = false)
    (hlists : p.Lists k) (hk : recorded k) : LeadsTo files recorded ⟨p, .examine⟩ (.ofText k)

namespace Store

/-- Whether two listings have the same paths. -/
def SamePaths (ps qs : List Path) : Prop := ∀ q, q ∈ ps ↔ q ∈ qs

/-- Surroundings as in `serves`, but directories list their entries in any order. -/
def strews (files : FileTree) (may : (r : Request) → r.Answer → Prop) : Surroundings Store
  | s, .list p, a, s' => SamePaths a (files.list p) ∧ s' = s
  | s, r, a, s' => serves files may s r a s'

/-- Files that agree are served in another order. -/
lemma strews_of_serves {files files' : FileTree} (h : files'.Agrees files)
    {may : (r : Request) → r.Answer → Prop} {s s' : Store} {r : Request} {a : r.Answer}
    (hserves : serves files' may s r a s') : strews files may s r a s' := by
  cases r with
  | list p =>
    obtain ⟨rfl, rfl⟩ := hserves
    exact ⟨fun q => h.mem_list, rfl⟩
  | kind p => exact ⟨hserves.1.trans h.kind?_eq, hserves.2⟩
  | sniff p => exact ⟨hserves.1.trans h.pictureType_eq, hserves.2⟩
  | info p => exact ⟨hserves.1.trans h.info?_eq, hserves.2⟩
  | _ => exact hserves

variable {a : Store} {t : Table Row}

/-- The store lists what it should below a path. -/
lemma under_lists (ht : a.pictures = some t) (p : Path) :
    ∃ ks, a.under p = .ok ks ∧ ∀ k, k ∈ ks ↔ (t.find? k).isSome ∧ p.Lists k := by
  by_cases hzero : '\x00' ∈ directoryStart p.text
  · refine ⟨[], ?_, fun k => ?_⟩
    · simp [under, pictureTable, ht, bind, Except.bind, pure, Except.pure, hzero]
    · exact iff_of_false List.not_mem_nil fun h => h.2.1 hzero
  · refine ⟨_, under_eq ht hzero, fun k => ?_⟩
    rw [List.mem_filter, Table.mem_keys]
    exact and_congr_right fun _ => (and_iff_right hzero).symm

end Store

/-- Whether a request neither lists a directory nor decodes a picture. -/
def Request.isPlain : Request → Bool
  | .list _ | .decode _ => false
  | _ => true

/-- A plan gets as far in other surroundings that answer its requests alike. -/
lemma Plan.Reaches.mono {σ : Type*} {α : Type} {S S' : Surroundings σ} {s s' : σ} {p q : Plan α}
    {allows : Request → Prop} {reports : α → Prop}
    (hstep : ∀ s r a s', allows r → S s r a s' → S' s r a s') (hwithin : p.Within allows reports)
    (hreach : Reaches S s p s' q) : Reaches S' s p s' q := by
  induction hreach with
  | refl => exact .refl
  | step hreach hanswer ih => exact .step ih (hstep _ _ _ _ (hwithin.of_reaches hreach).1 hanswer)

namespace Pipeline

open Plan

section

variable (e : Pipeline) (A : Findings) (files : FileTree)

/-- The row of a path after it has been looked at, given the one before. -/
def rowAfter (p : Path) (before : Option Row) : Option Row :=
  match files.kind? p with
  | none => if p.hasExtension then none else before
  | some .file =>
    if files.pictureType p = .notImage then before
    else match e.rowAt? A.toReadings files p with
      | none => none
      | some row =>
        -- a record with the time of the file is up to date
        if before.bind (fun old => Instant.ofMicros? old.micros) = Instant.ofMicros? row.micros then
          before
        else if (A.picture p).isSome && e.reads A.toReadings p then some row
        else before
  | some _ => before

/-- The row of an item's path after the item, given the one before. -/
def effect (item : Item) (before : Option Row) : Option Row :=
  match item.work with
  | .examine => e.rowAfter A files item.path before
  | .removeStale => if files.kind? item.path = none then none else before

/-- Looking at a path once more changes nothing. -/
lemma rowAfter_rowAfter (p : Path) (before : Option Row) :
    e.rowAfter A files p (e.rowAfter A files p before) = e.rowAfter A files p before := by
  unfold rowAfter
  rcases files.kind? p with _ | _ | _ | _ | _
  · simp only
    split <;> rfl
  · rfl
  · rfl
  · simp only
    split
    · rfl
    · cases e.rowAt? A.toReadings files p with
      | none => rfl
      | some row =>
        simp only
        split_ifs <;> simp_all
  · rfl

end

variable {e : Pipeline} {A : Findings} {R : Readings} {files : FileTree} {p : Path} {a b : Store}
  {t : Table Row} {outcome : Outcome}

/-! ## Describing and rejecting -/

lemma within_runStages (bitmap : Bitmap) (ws : WordSet) (stages : List Stage) :
    (e.runStages p bitmap ws stages).Within (·.isPlain = true) fun _ => True := by
  induction stages generalizing ws with
  | nil => trivial
  | cons stage rest ih =>
    have hstage : (e.runStage p bitmap ws stage).Within (·.isPlain = true) fun _ => True := by
      cases stage with
      | ocr => exact ⟨rfl, fun answer => by cases answer <;> trivial⟩
      | classifier =>
        rw [runStage, request_bind, within_ask]
        refine ⟨rfl, fun answer => ?_⟩
        cases answer with
        | error => trivial
        | ok answer =>
          simp only
          split <;> trivial
      | fileName => trivial
    rw [runStages]
    refine within_bind.mpr (hstage.mono fun found _ => ?_)
    cases found with
    | none => exact ih ws
    | some ws => exact within_bind.mpr ((ih ws).mono fun _ _ => trivial)

lemma within_describe (bitmap : Bitmap) (time : Instant) (size : Nat) :
    (e.describe p bitmap time size).Within (·.isPlain = true) fun _ => True := by
  rw [describe]
  split
  · trivial
  · refine within_bind.mpr ((within_runStages _ _ _).mono fun found _ => ?_)
    simp only
    split
    · trivial
    · exact ⟨rfl, fun answer => by cases answer <;> trivial⟩

/-- A plan that neither lists a directory nor decodes runs as it does in other lemmas. -/
lemma runs_of_plain {α : Type} {plan : Plan α} {found : α}
    (hplain : plan.Within (·.isPlain = true) fun _ => True)
    (hruns : Runs (Store.strews files (A.may p)) a plan found b) :
    Runs (Store.serves files (A.toReadings.may p)) a plan found b := by
  refine Reaches.mono (fun s r answer s' hr hanswer => ?_) hplain hruns
  cases r with
  | list q => exact nomatch hr
  | decode q => exact nomatch hr
  | _ => exact hanswer

lemma runs_refresh (ht : a.pictures = some t) {time : Instant} {size : Nat}
    (htime : Instant.ofMicros? time.micros = some time)
    (hruns : Runs (Store.strews files (A.may p)) a (e.refresh false p time size) outcome b) :
    let row := Store.rowOf ⟨p, time, UInt64.ofNat size, e.wordsOf A.toReadings p⟩
    outcome.discovered = [] ∧ Store.Alters a t p.text
      (if (t.find? p.text).bind (fun old => Instant.ofMicros? old.micros) =
          Instant.ofMicros? row.micros then t.find? p.text
        else if (A.picture p).isSome && e.reads A.toReadings p then some row
        else t.find? p.text) b := by
  intro row
  have hmicros : Instant.ofMicros? row.micros = some time := htime
  rw [hmicros]
  rw [refresh, request_bind, runs_ask] at hruns
  obtain ⟨recorded, _, ⟨rfl, rfl⟩, hruns⟩ := hruns
  rw [Store.lastModified?_eq ht] at hruns
  simp only [Except.toOption, Option.some.injEq] at hruns
  split at hruns
  · rename_i hsame
    obtain ⟨rfl, rfl⟩ := runs_done.mp hruns
    rw [if_pos hsame]
    exact ⟨rfl, Store.alters_same ht⟩
  · rename_i hother
    rw [if_neg hother]
    rw [if_neg (by simp), develop, request_bind, runs_ask] at hruns
    obtain ⟨decoded, _, ⟨hdecoded, rfl⟩, hruns⟩ := hruns
    obtain rfl : decoded = A.picture p := hdecoded
    cases hpicture : A.picture p with
    | none =>
      rw [hpicture] at hruns
      obtain ⟨rfl, rfl⟩ := runs_done.mp hruns
      rw [if_neg (by simp)]
      exact ⟨rfl, Store.alters_same ht⟩
    | some bitmap =>
      rw [hpicture] at hruns
      simp only [request_bind] at hruns
      rw [runs_ask] at hruns
      obtain ⟨_, _, rfl, hruns⟩ := hruns
      have hdescribed := runs_describe ht (runs_of_plain (within_describe _ _ _) hruns)
      simpa using hdescribed

lemma runs_annotate_effect (ht : a.pictures = some t) (hkind : files.kind? p = some .file)
    (htype : files.pictureType p ≠ .notImage)
    (hruns : Runs (Store.strews files (A.may p)) a (e.annotate false p) outcome b) :
    outcome.discovered = [] ∧
      Store.Alters a t p.text (e.rowAfter A files p (t.find? p.text)) b := by
  rcases runs_annotate_cases (fun _ _ _ _ h => h) (fun _ _ _ _ h => h) hkind htype A.toReadings
    hruns with ⟨hnot, hrest⟩ | ⟨info, time, hinfo, htime, -, hrow, hrest⟩
  · obtain ⟨rfl, rfl⟩ := runs_reject ht (runs_of_plain (within_reject p rfl trivial) hrest)
    simp only [rowAfter, hkind, if_neg htype, rowAt?_eq_none hnot]
    exact ⟨rfl, Store.alters_erase⟩
  · simp only [rowAfter, hkind, if_neg htype, hrow]
    exact runs_refresh ht (FileTree.ofMicros?_of_info hinfo htime) hrest

lemma runs_removeRecord (ht : a.pictures = some t)
    (hruns : Runs (Store.strews files (A.may p)) a (removeRecord p) outcome b) :
    outcome = .removed ∧ b = { a with pictures := some (t.erase p.text) } := by
  rw [removeRecord, request_bind, runs_ask] at hruns
  obtain ⟨answer, s, hanswer, hdone⟩ := hruns
  have hserves : Store.serves files (A.may p) a (.remove p) answer s := hanswer
  obtain ⟨rfl, rfl⟩ := (Store.serves_remove ht).mp hserves
  exact runs_done.mp hdone

/-- Other paths than directories and missing paths without extension lead nowhere. -/
lemma not_leadsTo {recorded : String → Prop} (hdir : files.kind? p ≠ some .directory)
    (hname : files.kind? p = none → p.hasExtension = true) (q : Path) :
    ¬ LeadsTo files recorded ⟨p, .examine⟩ q := by
  intro hleads
  cases hleads with
  | entry hkind => exact hdir hkind
  | below hkind hnot => simp [hname hkind] at hnot

/-- Looking at a path at which nothing stands. -/
lemma runs_examineMissing (ht : a.pictures = some t) (hkind : files.kind? p = none)
    (hruns : Runs (Store.strews files (A.may p)) a (examineMissing p) outcome b) :
    Store.Alters a t p.text (e.rowAfter A files p (t.find? p.text)) b ∧
      ∀ q, q ∈ outcome.discovered ↔
        LeadsTo files (fun k => (t.find? k).isSome) ⟨p, .examine⟩ q := by
  rw [examineMissing] at hruns
  split at hruns
  · rename_i hname
    obtain ⟨rfl, rfl⟩ := runs_removeRecord ht hruns
    simp only [rowAfter, hkind, if_pos hname]
    refine ⟨Store.alters_erase, fun q => iff_of_false List.not_mem_nil ?_⟩
    exact not_leadsTo (by simp [hkind]) (fun _ => hname) q
  · rename_i hname
    rw [request_bind, runs_ask] at hruns
    obtain ⟨answer, _, ⟨rfl, rfl⟩, hdone⟩ := hruns
    obtain ⟨ks, hks, hlisted⟩ := Store.under_lists ht p
    rw [hks] at hdone
    obtain ⟨rfl, rfl⟩ := runs_done.mp hdone
    simp only [rowAfter, hkind, if_neg hname]
    refine ⟨Store.alters_same ht, fun q => ?_⟩
    show q ∈ ks.map Path.ofText ↔ _
    simp only [List.mem_map, hlisted]
    constructor
    · rintro ⟨k, ⟨hk, hlists⟩, rfl⟩
      exact .below hkind (by simpa using hname) hlists hk
    · intro hleads
      cases hleads with
      | entry hdir => simp [hkind] at hdir
      | below _ _ hlists hk => exact ⟨_, ⟨hk, hlists⟩, rfl⟩

/-- Looking at a path. -/
lemma runs_examine (ht : a.pictures = some t)
    (hruns : Runs (Store.strews files (A.may p)) a (e.examine false p) outcome b) :
    Store.Alters a t p.text (e.rowAfter A files p (t.find? p.text)) b ∧
      ∀ q, q ∈ outcome.discovered ↔
        LeadsTo files (fun k => (t.find? k).isSome) ⟨p, .examine⟩ q := by
  have hpassed (hdone : ∀ before, e.rowAfter A files p before = before) (hb : b = a) :
      Store.Alters a t p.text (e.rowAfter A files p (t.find? p.text)) b := by
    rw [hdone, hb]
    exact Store.alters_same ht
  rw [examine_eq, runs_ask] at hruns
  obtain ⟨_, _, ⟨rfl, rfl⟩, hruns⟩ := hruns
  cases hkind : files.kind? p with
  | none =>
    rw [hkind] at hruns
    exact runs_examineMissing ht hkind hruns
  | some kind =>
    rw [hkind] at hruns
    have hnowhere (hdir : kind ≠ .directory) (hnone : outcome.discovered = []) (q : Path) :
        q ∈ outcome.discovered ↔ LeadsTo files (fun k => (t.find? k).isSome) ⟨p, .examine⟩ q := by
      rw [hnone]
      exact iff_of_false List.not_mem_nil
        (not_leadsTo (by simpa [hkind] using hdir) (by simp [hkind]) q)
    cases kind with
    | link | other =>
      obtain ⟨rfl, rfl⟩ := runs_done.mp hruns
      exact ⟨hpassed (by simp [rowAfter, hkind]) rfl, hnowhere (by simp) rfl⟩
    | directory =>
      obtain ⟨children, _, ⟨hchildren, rfl⟩, hdone⟩ := runs_ask.mp hruns
      obtain ⟨rfl, rfl⟩ := runs_done.mp hdone
      refine ⟨hpassed (by simp [rowAfter, hkind]) rfl, fun q => (hchildren q).trans ?_⟩
      constructor
      · exact .entry hkind
      · intro hleads
        cases hleads with
        | entry _ hq => exact hq
        | below hgone => simp [hkind] at hgone
    | file =>
      obtain ⟨type, _, ⟨htype, rfl⟩, hruns⟩ := runs_ask.mp hruns
      obtain rfl : type = files.pictureType p := htype
      split at hruns
      · rename_i htype
        obtain ⟨rfl, rfl⟩ := runs_done.mp hruns
        exact ⟨hpassed (by simp [rowAfter, hkind, htype]) rfl, hnowhere (by simp) rfl⟩
      · rename_i htype
        obtain ⟨hnothing, halters⟩ := runs_annotate_effect ht hkind htype hruns
        exact ⟨halters, hnowhere (by simp) hnothing⟩

/-- **What an item does**: it changes the row of its path as said, and nothing else in the store,
and leads to the paths that are said. -/
theorem runs_process (ht : a.pictures = some t) {item : Item}
    (hruns : Runs (Store.strews files (A.may item.path)) a (e.process false item) outcome b) :
    Store.Alters a t item.path.text (e.effect A files item (t.find? item.path.text)) b ∧
      ∀ q, q ∈ outcome.discovered ↔ LeadsTo files (fun k => (t.find? k).isSome) item q := by
  obtain ⟨p, work⟩ := item
  cases work with
  | examine => exact runs_examine ht hruns
  | removeStale =>
    have hnowhere (hnone : outcome.discovered = []) : ∀ q, q ∈ outcome.discovered ↔
        LeadsTo files (fun k => (t.find? k).isSome) ⟨p, .removeStale⟩ q := by
      rw [hnone]
      exact fun q => iff_of_false List.not_mem_nil nofun
    change Runs _ a (removeStale p) outcome b at hruns
    rw [removeStale, request_bind, runs_ask] at hruns
    obtain ⟨kind, _, ⟨rfl, rfl⟩, hruns⟩ := hruns
    simp only [effect]
    split at hruns
    · rename_i hkind
      obtain ⟨rfl, rfl⟩ := runs_removeRecord ht hruns
      rw [if_pos hkind]
      exact ⟨Store.alters_erase, hnowhere rfl⟩
    · rename_i kind hkind
      obtain ⟨rfl, rfl⟩ := runs_done.mp hruns
      rw [if_neg (by simp [hkind])]
      exact ⟨Store.alters_same ht, hnowhere rfl⟩

end Pipeline

end PictureIndex
