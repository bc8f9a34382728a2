import PictureIndex.Proofs.Resolution
import PictureIndex.Proofs.StaleRemovals
/-!
# What a sweep leaves behind

A sweep lists the recorded paths at which nothing stands, links followed.  The items that it sends
look once more, but they do not follow links.  So where a link leads nowhere, the sweep sees
nothing and its item sees the link, and the record stays; all other dead records go
(`dead_record_stays_iff_link`).

`buried` is the covenant that items keep of a path at which nothing stands: they never write a
record for it, and they touch it only to remove it, and only if there is no link either.
-/

namespace PictureIndex

open Log

namespace FileTree

variable {t : FileTree} {p : Path}

/-- Where nothing stands, links followed, there is nothing at all or a link. -/
lemma kind?_of_not_present (h : t.isPresent p = false) :
    t.kind? p = none ∨ t.kind? p = some .link := by
  cases hkind : t.kind? p with
  | none => exact .inl rfl
  | some kind =>
    obtain ⟨l, e, hl, he, rfl⟩ := kind?_eq_some.mp hkind
    by_cases hlink : ∃ target, e = .link target
    · obtain ⟨target, rfl⟩ := hlink
      exact .inr rfl
    · have htarget : t.locate? .target p = some l := by
        have hproper := proper_of_locate? hl
        rw [locate?_of_proper hproper] at hl ⊢
        refine walk_target_of_itself hl fun target hat => hlink ⟨target, ?_⟩
        exact Option.some.inj (he.symm.trans hat)
      simp [isPresent, target?, htarget, he] at h

end FileTree

/-- What is expected of a path at which nothing stands, where files do not change.  Nobody else has
its text, and its items look and find nothing or a link.  If they find nothing, they may ask for its
record to be removed; `erased` tells whether this was ever granted, and `begun` which items were
started. -/
def buried (files : FileTree) (q : Path) (erased : Prop) (begun : Item → Nat → Prop) : Covenant
    where
  answers _ _ r a := match r, a with
    | .kind p, a => a = files.kind? p
    | .remove p, a => p = q → a = .ok () → erased
    | _, _ => True
  allows p _ r := r.IsOf p ∧ (p.text = q.text → p = q) ∧
    (p = q → r = .kind q ∨ files.kind? q = none ∧ (r = .under q ∨ r = .remove q))
  reports g outcome := ∃ item, begun item g ∧ (item = ⟨q, .removeStale⟩ → files.kind? q = none →
    outcome = .failed .store ∨ erased)

lemma buried_binds (e : Pipeline) {files : FileTree} {q : Path} {erased : Prop}
    {begun : Item → Nat → Prop} (hdead : files.kind? q = none ∨ files.kind? q = some .link)
    (generation : Nat) (exhausted : Bool) {item : Item} (hbegun : begun item generation)
    (hown : item.path.text = q.text → item.path = q) :
    (buried files q erased begun).Binds item.path generation (e.process exhausted item) := by
  by_cases hpath : item.path = q
  swap
  · -- items of other paths do not come near
    refine ((e.puts_process exhausted item fun r hr => ?_).mono fun _ _ => ?_).abides
    · exact ⟨hr, hown, fun hsame => absurd hsame hpath⟩
    · exact ⟨item, hbegun, fun hsame => absurd (congrArg Item.path hsame) hpath⟩
  obtain ⟨p, work⟩ := item
  subst hpath
  have hask {r : Request} (hr : r.IsOf p) (hcase : r = .kind p ∨ files.kind? p = none ∧
      (r = .under p ∨ r = .remove p)) : (buried files p erased begun).allows p generation r :=
    ⟨hr, fun _ => rfl, fun _ => hcase⟩
  have hremove (hnone : files.kind? p = none) :
      (buried files p erased begun).Binds p generation (Pipeline.removeRecord p) := by
    refine Plan.abides_request (hask (.inr rfl) (.inr ⟨hnone, .inr rfl⟩)) fun answer hanswer => ?_
    cases answer with
    | error error => exact ⟨_, hbegun, fun _ _ => .inl rfl⟩
    | ok => exact ⟨_, hbegun, fun _ _ => .inr (hanswer rfl rfl)⟩
  cases work with
  | removeStale =>
    refine Plan.abides_request (hask (.inr rfl) (.inl rfl)) fun kind hkind => ?_
    obtain rfl := hkind
    rcases hdead with hnone | hlink
    · rw [hnone]
      exact hremove hnone
    · rw [hlink]
      exact ⟨_, hbegun, fun _ hnone => nomatch hlink.symm.trans hnone⟩
  | examine =>
    have hother (outcome : Outcome) : (buried files p erased begun).reports generation outcome :=
      ⟨_, hbegun, nofun⟩
    refine Plan.abides_request (hask (.inr rfl) (.inl rfl)) fun kind hkind => ?_
    obtain rfl := hkind
    rcases hdead with hnone | hlink
    · rw [hnone]
      show (Pipeline.examineMissing p).Abides _ _ _
      rw [Pipeline.examineMissing]
      split
      · exact hremove hnone
      · refine Plan.abides_request (hask (.inr rfl) (.inr ⟨hnone, .inl rfl⟩)) fun answer _ => ?_
        cases answer <;> exact hother _
    · rw [hlink]
      exact hother _

namespace Simulation

namespace World

variable {w : World} {p : Path}

/-- Removing a record leaves no other row in its place. -/
lemma row?_removed (w : World) (p : Path) :
    (w.reply (.remove p)).2.row? p = none ∨ (w.reply (.remove p)).2.row? p = w.row? p := by
  rcases w.update_cases .remove (·.remove p) with ⟨e, hkept⟩ | ⟨s, -, hset⟩
  · right
    change (w.update .remove (·.remove p)).2.row? p = _
    rw [hkept]
  · exact .inl (row?_remove rfl (by rw [hset]))

/-- The recorded paths are those with a row. -/
lemma mem_recorded {keys : List String} (h : w.recorded = .ok keys) {k : String} :
    k ∈ keys ↔ (w.row? (.ofText k)).isSome := by
  rw [recorded, query] at h
  split at h
  · cases h
  · cases ht : w.store.pictures with
    | none => simp [Store.all, Store.pictureTable, ht, bind, Except.bind] at h
    | some t =>
      have hkeys : t.keys = keys := by
        simpa [Store.all, Store.pictureTable, ht, bind, Except.bind, pure, Except.pure] using h
      rw [← hkeys, Table.mem_keys, row?, ht, Path.text_ofText]
      rfl

end World

namespace Session

variable {s : Session} {deeds : List Deed} {c : Config} {backends : Backends} {q : Path}

/-- Whether nobody outside touches files or store in a move. -/
def Untouched (s : Session) (v : Move) : Prop :=
  v.Legal ∧ ∀ w ∈ v.world?, w.files = s.world.files ∧ w.store = s.world.store

/-- Moves that come from inside touch nothing from outside. -/
lemma untouched_of_inside {vs : List Move} (h : ∀ v ∈ vs, v.Legal ∧ v.world?.isNone) :
    Along Untouched s vs := by
  refine along_iff.mpr fun us v ws hsplit => ?_
  obtain ⟨hlegal, hinside⟩ := h v (by simp [hsplit])
  exact ⟨hlegal, fun w hw => by simp [Option.mem_def.mp hw] at hinside⟩

/-- Whether a record of a path is removed in one of some moves. -/
def Erased (first : Session) (vs : List Move) (q : Path) : Prop :=
  ∃ us v ws generation, vs = us ++ v :: ws ∧
    (first.moveAll us).asked? v = some (generation, .remove q) ∧
    ((first.moveAll us).world.update .remove (·.remove q)).1 = .ok ()

/-- What a move does to the record of a path at which nothing stands: it does not appear, and if
there is a link, it stays as it is. -/
def Sinks (files : FileTree) (q : Path) (s : Session) (v : Move) : Prop :=
  (s.world.row? q = none → (s.move v).world.row? q = none) ∧
    (files.kind? q ≠ none → (s.move v).world.row? q = s.world.row? q)

lemma Along.row?_eq {files : FileTree} {vs : List Move} (h : Along (Sinks files q) s vs) :
    (s.world.row? q = none → (s.moveAll vs).world.row? q = none) ∧
      (files.kind? q ≠ none → (s.moveAll vs).world.row? q = s.world.row? q) := by
  induction vs generalizing s with
  | nil => exact ⟨id, fun _ => rfl⟩
  | cons v vs ih =>
    obtain ⟨hnone, hlink⟩ := ih h.2
    exact ⟨fun hq => hnone (h.1.1 hq), fun hq => (hlink hq).trans (h.1.2 hq)⟩

/-- Tasks that keep the covenant do not bring the record of a path back at which nothing stands. -/
lemma Abiding.sinks {files : FileTree} {erased : Prop} {begun : Item → Nat → Prop} {v : Move}
    (h : Abiding (buried files q erased begun) s deeds) (hv : s.Untouched v) :
    s.Sinks files q v := by
  have houtside (w : World) (hw : w ∈ v.world?) : w.row? q = s.world.row? q := by
    rw [World.row?, World.row?, (hv.2 w hw).2]
  have hother {task : Task} {r : Request} (hput : s.put? v = some (task, r))
      (hr : r ≠ .remove q) : (s.world.reply r).2.row? q = s.world.row? q := by
    obtain ⟨hof, hown, hcase⟩ := h.allowed hput
    by_cases hpath : task.path = q
    · rcases hcase hpath with rfl | ⟨-, rfl | rfl⟩
      · rfl
      · rfl
      · exact absurd rfl hr
    · refine World.row?_reply fun p hp htext => hpath (hown ?_)
      rcases hof with hnone | hsome
      · cases hnone.symm.trans hp
      · obtain rfl := Option.some.inj (hsome.symm.trans hp)
        exact htext
  constructor
  · intro hq
    refine world_move (R := fun w => w.row? q = none) (fun w hw => (houtside w hw).trans hq)
      (fun task r hput => ?_) fun _ => hq
    by_cases hr : r = .remove q
    · subst hr
      exact (World.row?_removed s.world q).elim id fun hsame => hsame.trans hq
    · exact (hother hput hr).trans hq
  · intro hlink
    refine row?_move houtside fun task r hput => hother hput ?_
    rintro rfl
    obtain ⟨hof, hown, hcase⟩ := h.allowed hput
    have hpath : task.path = q := by
      rcases hof with hnone | hsome
      · cases hnone
      · exact (Option.some.inj hsome).symm
    rcases hcase hpath with hkind | ⟨hnone, -⟩
    · cases hkind
    · exact hlink hnone

/-- Every move of a run honours what is expected of the items of this very run. -/
lemma honours_buried {first : Session} {files : FileTree} {vs us ws : List Move} {v : Move}
    (hvs : vs = us ++ v :: ws) (hv : (first.moveAll us).Untouched v)
    (hfiles : (first.moveAll us).world.files = files)
    (hdead : files.kind? q = none ∨ files.kind? q = some .link)
    (hown : ∀ x ∈ starts (Deed.log (first.history vs)), x.1.path.text = q.text → x.1.path = q) :
    Honours (buried files q (Erased first vs q)
      fun item g => (item, g) ∈ starts (Deed.log (first.history vs))) (first.moveAll us) v where
  legal := hv.1
  answers task r hput a delay w hreply := by
    cases r with
    | kind p =>
      obtain ⟨rfl, -⟩ := Reply.answer.inj (Prod.mk.inj hreply).1
      exact congrArg (·.kind? p) hfiles
    | remove p =>
      obtain ⟨rfl, -⟩ := Reply.answer.inj (Prod.mk.inj hreply).1
      rintro rfl hgranted
      exact ⟨us, v, ws, task.generation, hvs, by rw [asked?_eq, hput]; rfl, hgranted⟩
    | _ => trivial
  starts item g exhausted hstart := by
    have hbegun : (item, g) ∈ starts (Deed.log (first.history vs)) := by
      rw [hvs]
      exact starts_subset deeds_subset_history (mem_starts hstart)
    exact buried_binds _ hdead g exhausted hbegun (hown _ hbegun)

/-- In a run that nobody outside touches, all tasks keep the covenant. -/
lemma buried_along {world : World} {gate : Option (Worker × Gate × Nat)} {vs : List Move}
    (hstill : Along Untouched (starting world c backends gate) vs)
    (hdead : world.files.kind? q = none ∨ world.files.kind? q = some .link)
    (hown : ∀ x ∈ starts (Deed.log ((starting world c backends gate).history vs)),
      x.1.path.text = q.text → x.1.path = q) :
    let first := starting world c backends gate
    Along (Sinks world.files q) first vs ∧
      Abiding (buried world.files q (Erased first vs q)
        fun item g => (item, g) ∈ starts (Deed.log (first.history vs)))
        (first.moveAll vs) (first.history vs) := by
  intro first
  set C := buried world.files q (Erased first vs q)
    fun item g => (item, g) ∈ starts (Deed.log (first.history vs))
  have hstep (s : Session) (deeds : List Deed) (v : Move)
      (hmove : s.Untouched v ∧ ∃ us ws, vs = us ++ v :: ws ∧ s = first.moveAll us)
      (h : s.Budgeted c backends deeds ∧ Abiding C s deeds ∧ s.world.files = world.files) :
      ((s.move v).Budgeted c backends (deeds ++ s.deeds v) ∧
        Abiding C (s.move v) (deeds ++ s.deeds v) ∧ (s.move v).world.files = world.files) ∧
      s.Sinks world.files q v := by
    obtain ⟨hv, us, ws, hvs, rfl⟩ := hmove
    obtain ⟨hbudgeted, habiding, hfiles⟩ := h
    have hhonours : Honours C (first.moveAll us) v := honours_buried hvs hv hfiles hdead hown
    refine ⟨⟨hbudgeted.move hv.1, habiding.move hbudgeted.sound hhonours, ?_⟩, habiding.sinks hv⟩
    refine world_move (R := fun w => w.files = world.files) (fun w hw => ?_) (fun task r _ => ?_)
      fun _ => hfiles
    · exact (hv.2 w hw).1.trans hfiles
    · exact (World.reply_frame _ r).1.trans hfiles
  obtain ⟨⟨-, habiding, -⟩, hsinks⟩ := hstill.located.induction hstep
    ⟨budgeted_starting world c backends gate, abiding_of_nil rfl rfl, rfl⟩
  exact ⟨hsinks, by rwa [List.nil_append] at habiding⟩

/-- **A sweep removes all dead records but those of links.**  Take any session that starts afresh on
any store and any files, which do not change, and let a sweep list the records at any moment.  Take
a text that spells a path at which nothing stands, links followed, and let nobody else have it: the
items started are for no other path of this text.  Let the item that the sweep sent for it, if it
sent one, have left, and not for a failure of the store.

Then there is a record of this text if and only if the sweep saw one and a link stands at the path,
which leads nowhere.  Nothing else matters: neither what is excluded nor what else was queued. -/
theorem dead_record_stays_iff_link (world : World) (c : Config) (backends : Backends)
    (gate : Option (Worker × Gate × Nat)) (us vs : List Move) (recorded : List String) (k : String)
    (hstill : Along Untouched (starting world c backends gate) (us ++ vs))
    (hrecorded : ((starting world c backends gate).moveAll us).world.recorded = .ok recorded)
    (hdead : world.files.isPresent (.ofText k) = false)
    (hown : ∀ x ∈ starts (Deed.log ((starting world c backends gate).history (us ++ vs))),
      x.1.path.text = k → x.1.path = .ofText k)
    (hdone : .removeStale (.ofText k) ∈ world.files.sweep recorded →
      ∃ d ∈ departures (Deed.log ((starting world c backends gate).history (us ++ vs))),
        d.item = ⟨.ofText k, .removeStale⟩ ∧ ∃ outcome ∈ d.outcome, outcome ≠ .failed .store) :
    (((starting world c backends gate).moveAll (us ++ vs)).world.row? (.ofText k)).isSome ↔
      k ∈ recorded ∧ world.files.kind? (.ofText k) = some .link := by
  set first := starting world c backends gate
  set q := Path.ofText k
  have hnothing := FileTree.kind?_of_not_present hdead
  have htext : q.text = k := Path.text_ofText k
  obtain ⟨hsinks, habiding⟩ := buried_along hstill hnothing (by rwa [htext])
  obtain ⟨hbefore, hafter⟩ := along_append.mp hsinks
  have hlast : first.moveAll (us ++ vs) = (first.moveAll us).moveAll vs := List.foldl_append
  rw [World.mem_recorded hrecorded]
  rcases hnothing with hnone | hlink
  swap
  · have hsame := hafter.row?_eq.2 (by simp [hlink])
    rw [hlast, hsame]
    exact ⟨fun hrow => ⟨hrow, hlink⟩, fun hrow => hrow.1⟩
  · suffices hgone : (first.moveAll (us ++ vs)).world.row? q = none by simp [hgone, hnone]
    by_cases hrow : (first.moveAll us).world.row? q = none
    · rw [hlast]
      exact hafter.row?_eq.1 hrow
    · -- the sweep has sent an item for it, which has removed it
      have hswept : .removeStale q ∈ world.files.sweep recorded := by
        refine FileTree.mem_sweep.mpr ⟨⟨k, ?_, rfl⟩, hdead⟩
        rw [World.mem_recorded hrecorded]
        exact Option.isSome_iff_ne_none.mpr hrow
      obtain ⟨d, hd, hitem, outcome, houtcome, hok⟩ := hdone hswept
      obtain ⟨item, hbegun, hreport⟩ := habiding.left d hd outcome houtcome
      have hnumbered := numbered_moveAll world c backends gate (us ++ vs)
      obtain rfl := hnumbered.item_eq hbegun (hnumbered.departed d hd)
      obtain ⟨us', v, ws, generation, hsplit, hasked, hgranted⟩ :=
        (hreport hitem hnone).resolve_left hok
      rw [hsplit] at hsinks ⊢
      obtain ⟨-, -, hrest⟩ := along_append.mp hsinks
      rw [moveAll, List.foldl_append]
      refine hrest.row?_eq.1 ?_
      rw [world_of_asked? hasked]
      exact World.row?_remove rfl hgranted

/-- Two records are left over: nothing stands at one path, and at the other a link that leads
nowhere. -/
def leftovers : World :=
  { twoPictures with
    files := ⟨[([[0x62, 0x2E, 0x70, 0x6E, 0x67]], .link ⟨[0x2F, 0x63]⟩)]⟩
    store := { Store.new with
      pictures := some
        ((Table.empty.insert "/a.png" ⟨0, 16, "[]"⟩).insert "/b.png" ⟨0, 16, "[]"⟩) } }

/-- A worker without backends that is to leave everything alone. -/
def sweeper : Worker := ⟨{ onePicture with excludedPrefixes := ["/"] }, ⟨false, false⟩⟩

/-- The gate arms, the sweep is run, and its two items do what they have to do. -/
def sweepRun : List Move :=
  List.flatten [[.gate], List.replicate 4 .deliver, List.replicate 3 (.task 0), [.deliver],
    List.replicate 2 (.task 0), [.deliver]]

/-- A sweep removes the record of a path at which nothing stands. -/
theorem leftover_swept_away :
    let first := starting leftovers sweeper.config ⟨false, false⟩ (some (sweeper, sweeper.gate, 0))
    leftovers.recorded.toOption = some ["/a.png", "/b.png"] ∧
      (first.moveAll sweepRun).world.row? (.ofText "/a.png") = none := by
  intro first
  have hstill : Along Untouched first ([] ++ sweepRun) := untouched_of_inside (by decide +kernel)
  have hlisted : leftovers.recorded.toOption = some ["/a.png", "/b.png"] := by decide +kernel
  have hrecorded : leftovers.recorded = .ok ["/a.png", "/b.png"] := by
    cases hall : leftovers.recorded with
    | error e => simp [hall, Except.toOption] at hlisted
    | ok keys => rw [Option.some.inj ((congrArg Except.toOption hall).symm.trans hlisted)]
  have hdead : leftovers.files.isPresent (.ofText "/a.png") = false := by decide +kernel
  have hown : ∀ x ∈ starts (Deed.log (first.history ([] ++ sweepRun))),
      x.1.path.text = "/a.png" → x.1.path = .ofText "/a.png" := by decide +kernel
  have hdone : ∃ d ∈ departures (Deed.log (first.history ([] ++ sweepRun))),
      d.item = ⟨.ofText "/a.png", .removeStale⟩ ∧
        ∃ outcome ∈ d.outcome, outcome ≠ .failed .store := by decide +kernel
  have hiff := dead_record_stays_iff_link leftovers sweeper.config ⟨false, false⟩
    (some (sweeper, sweeper.gate, 0)) [] sweepRun ["/a.png", "/b.png"] "/a.png" hstill hrecorded
    hdead hown fun _ => hdone
  have hnolink : leftovers.files.kind? (.ofText "/a.png") ≠ some .link := by decide +kernel
  refine ⟨hlisted, ?_⟩
  rw [← Option.not_isSome_iff_eq_none]
  exact fun hrow => hnolink (hiff.mp hrow).2

/-- The record of a link that leads nowhere stays, though the sweep saw nothing there and all that
it sent has been done. -/
theorem record_of_dangling_link_stays :
    let first := starting leftovers sweeper.config ⟨false, false⟩ (some (sweeper, sweeper.gate, 0))
    let s := first.moveAll sweepRun
    leftovers.files.isPresent (.ofText "/b.png") = false ∧
      leftovers.files.sweep ["/a.png", "/b.png"] =
        [.removeStale (.ofText "/a.png"), .removeStale (.ofText "/b.png")] ∧
      (departures (Deed.log (first.history sweepRun))).map (fun d => (d.item, d.outcome)) =
        [(⟨.ofText "/a.png", .removeStale⟩, some .removed),
          (⟨.ofText "/b.png", .removeStale⟩, some (.skipped .stillPresent))] ∧
      s.scheduler.queue = [] ∧ s.world.recorded.toOption = some ["/b.png"] := by
  decide +kernel

end Session

end Simulation

end PictureIndex
