import PictureIndex.Proofs.StoreTables
import PictureIndex.Simulation.World
/-!
# Records of what is no picture any more

A record is stale when its path exists but is no picture worth indexing: it has become a link, a
directory or something else that is no regular file, or a file that is empty, too large, without the
extension or without the first bytes of a picture.  Such a path is turned away at two places.  The
second of them rejects it and drops its record; the first only skips it.  So which records survive
depends on where their path is turned away, and `stale_record_dropped_iff` says which.
-/

namespace PictureIndex

/-- Whether a picture worth indexing stands at a path itself: a regular file with the extension of
a picture, neither empty nor too large, of a type that is indexed. -/
def FileTree.holdsPicture (t : FileTree) (maxSize : Nat) (p : Path) : Bool :=
  t.kind? p = some .file &&
    (t.info? p).any (fun info => 1 ≤ info.sizeBytes && info.sizeBytes ≤ maxSize) &&
    (t.pictureType p).isIndexable

lemma FileTree.holdsPicture_iff {t : FileTree} {maxSize : Nat} {p : Path} {info : FileInfo}
    (hkind : t.kind? p = some .file) (hinfo : t.info? p = some info) :
    t.holdsPicture maxSize p = true ↔
      1 ≤ info.sizeBytes ∧ info.sizeBytes ≤ maxSize ∧ (t.pictureType p).isIndexable = true := by
  simp [holdsPicture, hkind, hinfo, and_assoc]

/-- A file of which a header was read has a size. -/
lemma FileTree.info?_of_pictureType {t : FileTree} {p : Path} (h : t.pictureType p ≠ .notImage) :
    ∃ info, t.info? p = some info := by
  rw [pictureType, read?] at h
  rw [info?]
  split at h
  · exact absurd rfl h
  · split
    · exact ⟨_, rfl⟩
    · rename_i hnone
      split at h
      · exact absurd rfl h
      · rename_i content hcontent
        split at hcontent
        · rename_i hfile
          exact absurd hfile (hnone _ _)
        · cases hcontent

namespace Simulation.World

variable {α : Type} (w : World) (armed : Bool) (p : Path)

/-! ## Requests that are carried out -/

/-- A request that is answered at once, other than that for time to run. -/
lemma carryOut_request {w' : World} {r : Request} {a : r.Answer}
    (hreply : w.reply r = (.answer a 0, w')) (hr : r ≠ .arm) (f : r.Answer → Plan α) :
    w.carryOut armed (Plan.request r >>= f) = w'.carryOut armed (f a) := by
  rw [Plan.request_bind, carryOut, hreply]
  cases r with
  | arm => exact absurd rfl hr
  | _ => simp

lemma carryOut_kind (f : (Request.kind p).Answer → Plan α) :
    w.carryOut armed (Plan.request (.kind p) >>= f) = w.carryOut armed (f (w.files.kind? p)) :=
  w.carryOut_request armed (r := .kind p) rfl nofun f

lemma carryOut_list (f : (Request.list p).Answer → Plan α) :
    w.carryOut armed (Plan.request (.list p) >>= f) = w.carryOut armed (f (w.files.list p)) :=
  w.carryOut_request armed (r := .list p) rfl nofun f

lemma carryOut_sniff (f : (Request.sniff p).Answer → Plan α) :
    w.carryOut armed (Plan.request (.sniff p) >>= f) =
      w.carryOut armed (f (w.files.pictureType p)) :=
  w.carryOut_request armed (r := .sniff p) rfl nofun f

lemma carryOut_info (f : (Request.info p).Answer → Plan α) :
    w.carryOut armed (Plan.request (.info p) >>= f) = w.carryOut armed (f (w.files.info? p)) :=
  w.carryOut_request armed (r := .info p) rfl nofun f

/-- The world in which a path has no record. -/
def without (t : Table Row) : World :=
  { w with store := { w.store with pictures := some (t.erase p.text) } }

/-- A store that takes the request drops the record of a path. -/
lemma carryOut_remove {t : Table Row} (ht : w.store.pictures = some t)
    (hremove : StoreCall.remove ∉ w.refused) (f : (Request.remove p).Answer → Plan α) :
    w.carryOut armed (Plan.request (.remove p) >>= f) =
      (w.without p t).carryOut armed (f (.ok ())) := by
  have hreply : w.reply (.remove p) = (.answer (.ok ()) 0, w.without p t) := by
    simp only [reply, update, query, Store.remove_eq ht]
    simp [hremove, without]
  exact w.carryOut_request armed hreply nofun f

lemma carryOut_reject {t : Table Row} (ht : w.store.pictures = some t)
    (hremove : StoreCall.remove ∉ w.refused) :
    w.carryOut armed (Pipeline.reject p) = (some .rejected, armed, w.without p t) := by
  exact w.carryOut_remove armed p ht hremove _

/-! ## Where a path is turned away -/

variable {w p} {t : Table Row} {e : Pipeline}

/-- A file with the first bytes of a picture that is not worth indexing is rejected. -/
lemma carryOut_annotate (ht : w.store.pictures = some t) (hremove : StoreCall.remove ∉ w.refused)
    (hkind : w.files.kind? p = some .file) (htype : w.files.pictureType p ≠ .notImage)
    (hnot : w.files.holdsPicture e.maxSize p = false) (exhausted : Bool) :
    w.carryOut armed (e.annotate exhausted p) = (some .rejected, armed, w.without p t) := by
  obtain ⟨info, hinfo⟩ := FileTree.info?_of_pictureType htype
  have hreject := w.carryOut_reject armed p ht hremove
  refine (w.carryOut_info armed p _).trans ?_
  rw [hinfo]
  simp only
  split
  · exact hreject
  · rename_i hsize
    refine (w.carryOut_sniff armed p _).trans ?_
    -- its size is all right, so it must be its type that is not
    have hunfit : (w.files.pictureType p).isIndexable = false := by
      simp only [Bool.or_eq_true, decide_eq_true_eq, not_or, Nat.not_lt] at hsize
      rw [← Bool.not_eq_true] at hnot ⊢
      refine fun htype => hnot ((FileTree.holdsPicture_iff hkind hinfo).mpr ⟨?_, hsize.2, htype⟩)
      omega
    rw [if_pos (by simp [hunfit])]
    exact hreject

/-- What becomes of a path at which such a thing stands if it is passed by. -/
def passing (w : World) (p : Path) : EntryKind → Outcome
  | .link => .skipped .symlink
  | .directory => .expanded (w.files.list p)
  | .file | .other => .skipped .notImage

/-- Whatever else is no picture worth indexing is skipped, or expanded if it is a directory. -/
lemma carryOut_examine_passed {kind : EntryKind} (hkind : w.files.kind? p = some kind)
    (hpassed : kind = .file → w.files.pictureType p = .notImage) (exhausted : Bool) :
    w.carryOut armed (e.examine exhausted p) = (some (w.passing p kind), armed, w) := by
  refine (w.carryOut_kind armed p _).trans ?_
  rw [hkind]
  cases kind with
  | link => rfl
  | directory => exact w.carryOut_list armed p _
  | other => rfl
  | file =>
    refine (w.carryOut_sniff armed p _).trans ?_
    rw [if_pos (hpassed rfl)]
    rfl

/-- **Which stale records are dropped.**  Take any world whose store has a table of pictures and
takes the removal of records, and let a path be looked at where something stands that is no picture
worth indexing.  If it is a regular file with the extension and the first bytes of a picture (so
that it is too large or animated), it is rejected and its record is dropped.  If not, nothing at all
changes: a link and what is no picture are skipped, a directory is expanded.  So the path has no
record afterwards exactly if it had none before or was such a file. -/
theorem stale_record_dropped_iff (e : Pipeline) (exhausted : Bool) (w : World) (t : Table Row)
    (ht : w.store.pictures = some t) (hremove : StoreCall.remove ∉ w.refused) (p : Path)
    (kind : EntryKind) (hkind : w.files.kind? p = some kind)
    (hnot : w.files.holdsPicture e.maxSize p = false) :
    let after := w.carryOut false (e.examine exhausted p)
    let rejected := kind = .file ∧ w.files.pictureType p ≠ .notImage
    (rejected → after = (some .rejected, false, w.without p t)) ∧
    (¬ rejected → after = (some (w.passing p kind), false, w)) ∧
    ∃ t', after.2.2.store.pictures = some t' ∧
      (t'.find? p.text = none ↔ t.find? p.text = none ∨ rejected) := by
  intro after rejected
  have hrejected (h : rejected) : after = (some .rejected, false, w.without p t) := by
    obtain ⟨rfl, htype⟩ := h
    have hpast : after = w.carryOut false (e.annotate exhausted p) := by
      refine (w.carryOut_kind false p _).trans ?_
      rw [hkind]
      refine (w.carryOut_sniff false p _).trans ?_
      rw [if_neg htype]
    exact hpast.trans (carryOut_annotate false ht hremove hkind htype hnot exhausted)
  have hpassed (h : ¬ rejected) :=
    carryOut_examine_passed (e := e) false hkind
      (fun hfile => by_contra fun htype => h ⟨hfile, htype⟩) exhausted
  refine ⟨hrejected, hpassed, ?_⟩
  by_cases h : rejected
  · refine ⟨t.erase p.text, by rw [hrejected h]; rfl, ?_⟩
    rw [Table.find?_erase, if_pos rfl]
    exact iff_of_true rfl (.inr h)
  · refine ⟨t, by simp only [after]; rw [hpassed h]; exact ht, ?_⟩
    simp [h]

/-! ### Records that stay, and records that go -/

/-- A record for each of some paths. -/
def spoiledTable : Table Row :=
  ["/a.png", "/b.png", "/c.png", "/d.png", "/e.png", "/f.txt", "/g.png"].foldl
    (fun t name => t.insert name ⟨0, 16, "[]"⟩) Table.empty

/-- A world in which no picture worth indexing stands at these paths. -/
def spoiled : World where
  now := 0
  files :=
    let png : List UInt8 := [0x89, 0x50, 0x4E, 0x47, 0x0D, 0x0A, 0x1A, 0x0A]
    -- `a.png` holds text, `b.png` is empty, `c.png` is a link, `d.png` is a directory,
    -- `e.png` is a socket, `f.txt` has no extension of a picture, and `g.png` is too large
    ⟨[([[0x61, 0x2E, 0x70, 0x6E, 0x67]], .file ⟨[0x74, 0x65, 0x78, 0x74], 4⟩ 0),
      ([[0x62, 0x2E, 0x70, 0x6E, 0x67]], .file ⟨[], 0⟩ 0),
      ([[0x63, 0x2E, 0x70, 0x6E, 0x67]], .link ⟨[0x2F, 0x67, 0x2E, 0x70, 0x6E, 0x67]⟩),
      ([[0x64, 0x2E, 0x70, 0x6E, 0x67]], .directory 0),
      ([[0x65, 0x2E, 0x70, 0x6E, 0x67]], .socket),
      ([[0x66, 0x2E, 0x74, 0x78, 0x74]], .file ⟨png, 16⟩ 0),
      ([[0x67, 0x2E, 0x70, 0x6E, 0x67]], .file ⟨png, 200⟩ 0)]⟩
  store := { Store.new with pictures := some spoiledTable }
  refused := []
  ocr := ⟨some 0, []⟩
  classifier := ⟨some 0, []⟩
  decoder := .scripted [] []
  calls := []

/-- A pipeline that takes files of a hundred bytes at most. -/
def smallPictures : Pipeline where
  backends := ⟨true, false⟩
  filter := WordFilter.ofStopWords []
  threshold := Single.zero
  maxSize := 100
  fallback := false

/-- The file that is too large loses its record, the one that holds text does not. -/
theorem stale_record_dropped_if_too_large :
    let after (p : Path) := spoiled.carryOut false (smallPictures.examine false p)
    let g : Path := .ofText "/g.png"
    let a : Path := .ofText "/a.png"
    after g = (some .rejected, false, spoiled.without g spoiledTable) ∧
      (∃ t', (after a).2.2.store.pictures = some t' ∧ t'.find? a.text ≠ none) := by
  intro after g a
  have hg := stale_record_dropped_iff smallPictures false spoiled spoiledTable rfl
    (by decide) g .file (by decide +kernel) (by decide +kernel)
  have ha := stale_record_dropped_iff smallPictures false spoiled spoiledTable rfl
    (by decide) a .file (by decide +kernel) (by decide +kernel)
  refine ⟨hg.1 ⟨rfl, by decide +kernel⟩, ?_⟩
  obtain ⟨t', ht', hiff⟩ := ha.2.2
  refine ⟨t', ht', fun hnone => ?_⟩
  have hrecord : spoiledTable.find? a.text ≠ none := by decide +kernel
  have htext : spoiled.files.pictureType a = .notImage := by decide +kernel
  rcases hiff.mp hnone with hgone | ⟨-, htype⟩
  · exact hrecord hgone
  · exact htype htext

/-- Whether the record of a path stays at which something stands that is no picture. -/
def StaysSpoiled (p : Path) : Prop :=
  let after := spoiled.carryOut false (smallPictures.examine false p)
  (spoiled.files.kind? p).isSome ∧
    spoiled.files.holdsPicture smallPictures.maxSize p = false ∧ after.1.isSome ∧
    (after.2.2.store.pictures.bind (·.find? p.text)).isSome

instance (p : Path) : Decidable (StaysSpoiled p) := by
  unfold StaysSpoiled
  infer_instance

/-- Records stay whose path has become a file of text, an empty file, a link, a directory or a
socket, or has not the extension of a picture. -/
theorem stale_records_stay :
    spoiled.refused = [] ∧ StaysSpoiled (.ofText "/a.png") ∧ StaysSpoiled (.ofText "/b.png") ∧
      StaysSpoiled (.ofText "/c.png") ∧ StaysSpoiled (.ofText "/d.png") ∧
      StaysSpoiled (.ofText "/e.png") ∧ StaysSpoiled (.ofText "/f.txt") := by
  refine ⟨rfl, ?_⟩
  decide +kernel

end Simulation.World

end PictureIndex
