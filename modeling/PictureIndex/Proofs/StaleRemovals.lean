import PictureIndex.Proofs.SettledPictures
/-!
# Stale records are removed with care

Between the sweep that lists a missing path and the moment at which its record is removed,
anything may happen: the file may come back, and it may be annotated anew.  So the item that
removes the record looks once more, and if something stands at the path, it leaves the record alone
(`swept_record_spared_if_found`).

The path, though, is one that the sweep read from the store, which keeps the text of a path only.
The text of a path that is UTF-8 spells this path.  That of any other spells another one, and if
nothing stands there, the record is removed, whatever stands at the path it was made for
(`living_record_removed`).
-/

namespace PictureIndex

open Log

/-- The path of which a request asks what stands there. -/
def Request.lookedAt? : Request → Option Path
  | .kind p => some p
  | _ => none

lemma Request.eq_kind {r : Request} {p : Path} (h : r.lookedAt? = some p) : r = .kind p := by
  cases r with
  | kind q => exact congrArg Request.kind (Option.some.inj h)
  | _ => exact nomatch h

namespace FileTree

variable {t : FileTree} {recorded : List String} {p q : Path}

lemma mem_sweep : .removeStale p ∈ t.sweep recorded ↔
    (∃ k ∈ recorded, Path.ofText k = p) ∧ t.isPresent p = false := by
  simp [sweep, missing]

/-- The path that a sweep sends for the record of a path is the one that its text spells. -/
lemma eq_respelled_of_sweep (h : .removeStale q ∈ t.sweep recorded) (hq : q.text = p.text) :
    q = p.respelled := by
  obtain ⟨⟨k, -, rfl⟩, -⟩ := mem_sweep.mp h
  rw [Path.respelled, ← hq, Path.text_ofText]

end FileTree

namespace Pipeline

variable {σ : Type*} {S : Surroundings σ} {s s' : σ} {p : Path} {plan : Plan Outcome}

lemma removeStale_eq (p : Path) : removeStale p = .ask (.kind p) fun
    | none => removeRecord p
    | some _ => .done (.skipped .stillPresent) :=
  rfl

lemma removeRecord_eq (p : Path) : removeRecord p = .ask (.remove p) fun
    | .ok _ => .done .removed
    | .error _ => .done (.failed .store) :=
  rfl

/-- A removal has yet to look, or it has seen nothing and has yet to remove, or it is over. -/
lemma stages_of_removal (h : Plan.Reaches S s (removeStale p) s' plan) :
    plan = removeStale p ∨ plan = removeRecord p ∨ ∃ outcome, plan = .done outcome := by
  rw [removeStale_eq, Plan.reaches_ask] at h
  rcases h with ⟨-, rfl⟩ | ⟨kind, s₁, -, h⟩
  · exact .inl rfl
  cases kind with
  | some kind => exact .inr (.inr ⟨_, (Plan.reaches_done.mp h).2⟩)
  | none =>
    simp only at h
    rw [removeRecord_eq, Plan.reaches_ask] at h
    rcases h with ⟨-, rfl⟩ | ⟨answer, s₂, -, h⟩
    · exact .inr (.inl rfl)
    · cases answer <;> exact .inr (.inr ⟨_, (Plan.reaches_done.mp h).2⟩)

end Pipeline

namespace Simulation

namespace Session

variable {s : Session} {deeds : List Deed} {c : Config} {backends : Backends} {p q : Path}
  {generation : Nat}

/-- What is left of the plan of the item in flight. -/
lemma Budgeted.underway (h : s.Budgeted c backends deeds) {i : Nat} {task : Task}
    {plan : Plan Outcome} (htask : s.tasks[i]? = some task)
    (hrun : Task.runnable? s.world.now task = some plan) :
    ∃ item exhausted, (item, task.generation) ∈ starts (Deed.log deeds) ∧
      (∀ item', (item', task.generation) ∈ starts (Deed.log deeds) → item' = item) ∧
      Plan.Reaches (fun _ _ _ _ => True) () (s.pipeline.process exhausted item) () plan := by
  obtain ⟨f, -, hf, -, -, htasks, hown, -⟩ := h.orderly.alone htask
  obtain ⟨hopen, hqueue, -⟩ := h.sound.in_flight hf
  obtain ⟨a, -, hstanding⟩ := h.tracked.relay
  cases hstanding with
  | stopped hstopped => simp [hopen] at hstopped
  | idle hnone => simp [hqueue] at hnone
  | busy item plan' hfront hreach hplans =>
    obtain rfl := (hplans task (by simp [htasks])).2 _ (runnable_plan hrun)
    rw [hown]
    exact ⟨item, _, h.sound.front_started hf hfront, fun _ => h.sound.item_eq hf hfront, hreach⟩

/-- An item that removes a stale record looks first; if it sees nothing, it removes the record, and
else it does no more. -/
lemma Budgeted.removal_along (h : s.Budgeted c backends deeds) {v : Move} {r : Request}
    (hasked : s.asked? v = some (generation, r))
    (hstart : (⟨q, .removeStale⟩, generation) ∈ starts (Deed.log deeds)) {ws : List Move}
    (hws : ∀ v ∈ ws, v.Legal) :
    (r = .kind q ∨ r = .remove q) ∧
      Along (fun s' v => ∀ r', s'.asked? v = some (generation, r') →
        r = .kind q ∧ s.world.files.kind? q = none ∧ r' = .remove q) (s.move v) ws ∧
      ∀ d ∈ departures (Deed.log (deeds ++ s.deeds v ++ (s.move v).history ws)),
        d.generation = generation → ∀ outcome ∈ d.outcome, r = .kind q →
          if s.world.files.kind? q = none then outcome = .removed ∨ outcome = .failed .store
          else outcome = .skipped .stillPresent := by
  rw [asked?_eq] at hasked
  obtain ⟨⟨task, r'⟩, hput, hsame⟩ := Option.map_eq_some_iff.mp hasked
  obtain ⟨rfl, rfl⟩ := Prod.mk.inj hsame
  obtain ⟨i, next, rfl, htask, hrun⟩ := plan_of_put? hput
  obtain ⟨item, exhausted, -, hunique, hreach⟩ := h.underway htask hrun
  obtain rfl := hunique _ hstart
  rcases Pipeline.stages_of_removal hreach with hplan | hplan | ⟨outcome, hplan⟩
  · obtain ⟨rfl, hnext⟩ := Plan.ask.inj (hplan.trans (Pipeline.removeStale_eq q))
    obtain rfl := eq_of_heq hnext
    refine ⟨.inl rfl, h.rest_along htask hrun (fun kind delay w hreply => ?_) hstart hws⟩
    obtain ⟨rfl, -⟩ := Reply.answer.inj (Prod.mk.inj hreply).1
    cases hkind : s.world.files.kind? q with
    | some kind => simp
    | none => exact Pipeline.within_removeRecord q (by simp) (by simp) (by simp)
  · obtain ⟨rfl, hnext⟩ := Plan.ask.inj (hplan.trans (Pipeline.removeRecord_eq q))
    obtain rfl := eq_of_heq hnext
    refine ⟨.inr rfl, h.rest_along htask hrun (fun answer delay w _ => ?_) hstart hws⟩
    cases answer <;> simp
  · exact nomatch hplan

/-- There is one item on whose behalf something is asked. -/
lemma Budgeted.started_once (h : s.Budgeted c backends deeds) {v : Move} {r : Request}
    (hasked : s.asked? v = some (generation, r)) :
    ∃ item, (item, generation) ∈ starts (Deed.log deeds) ∧
      ∀ item', (item', generation) ∈ starts (Deed.log deeds) → item' = item := by
  rw [asked?_eq] at hasked
  obtain ⟨⟨task, r'⟩, hput, hsame⟩ := Option.map_eq_some_iff.mp hasked
  obtain ⟨rfl, -⟩ := Prod.mk.inj hsame
  obtain ⟨i, next, -, htask, hrun⟩ := plan_of_put? hput
  obtain ⟨item, -, hstart, honly, -⟩ := h.underway htask hrun
  exact ⟨item, hstart, honly⟩

/-- The look of an item that removes a stale record is the first thing for which it asks. -/
lemma not_asked_before_look {world : World} {gate : Option (Worker × Gate × Nat)}
    {us ws : List Move} {v : Move} (hlegal : ∀ u ∈ us ++ v :: ws, u.Legal)
    (hstart : (⟨q, .removeStale⟩, generation) ∈ starts (Deed.log
      ((starting world c backends gate).history us)))
    (hlook : ((starting world c backends gate).moveAll us).asked? v =
      some (generation, .kind q)) :
    Along (fun s u => ∀ r, s.asked? u ≠ some (generation, r))
      (starting world c backends gate) us := by
  refine along_iff.mpr fun us₁ u us₂ hsplit r hasked => ?_
  have hthen : ((starting world c backends gate).moveAll us).Budgeted c backends _ :=
    budgeted_moveAll world c backends gate fun x hx => hlegal x (List.mem_append_left _ hx)
  have hearlier : ((starting world c backends gate).moveAll us₁).Budgeted c backends _ :=
    budgeted_moveAll world c backends gate fun x hx => hlegal x (by simp [hsplit, hx])
  -- what is asked earlier is asked for the same item
  obtain ⟨item, hitem, -⟩ := hearlier.started_once hasked
  obtain ⟨only, -, honly⟩ := hthen.started_once hlook
  have hsame : item = ⟨q, .removeStale⟩ := by
    rw [honly _ hstart]
    refine honly _ (starts_subset ?_ hitem)
    rw [hsplit, history_append]
    exact List.subset_append_left _ _
  subst hsame
  -- and after that it asks at most for the removal
  have hlater : ∀ x ∈ us₂ ++ [v], x.Legal := fun x hx =>
    hlegal x (by simp [hsplit] at hx ⊢; tauto)
  obtain ⟨-, hrest, -⟩ := hearlier.removal_along hasked hitem hlater
  obtain ⟨-, hlast, -⟩ := along_append.mp hrest
  rw [← moveAll_cons, moveAll, moveAll, ← List.foldl_append, ← hsplit] at hlast
  exact nomatch (hlast _ hlook).2.2

/-- **A swept record is spared if something stands at its path.**  Take a path, and the path that a
sweep sent for its record, whatever the sweep saw.  In a session that starts afresh, let an item be
started to remove that record, and let it look whether something stands at the latter path.

* The path sent is the one that the text of the former spells, so it is the same if the path is
  UTF-8.
* If something stands there, the item asks for nothing else in the whole run, the record stays as
  far as the item is concerned, and all that is reported is that something is still there.
* If nothing stands there, all that it asks for besides is that the record be removed, and if this
  is granted, the record is gone. -/
theorem swept_record_spared_if_found (world : World) (c : Config) (backends : Backends)
    (gate : Option (Worker × Gate × Nat)) (listed : FileTree) (recorded : List String) (p q : Path)
    (generation : Nat) (us ws : List Move) (v : Move)
    (hlegal : ∀ u ∈ us ++ v :: ws, u.Legal) (hswept : .removeStale q ∈ listed.sweep recorded)
    (hrecord : q.text = p.text)
    (hstart : (⟨q, .removeStale⟩, generation) ∈ starts (Deed.log
      ((starting world c backends gate).history us)))
    (hlook : ((starting world c backends gate).moveAll us).asked? v =
      some (generation, .kind q)) :
    let first := starting world c backends gate
    let files := (first.moveAll us).world.files
    let reports (outcome : Outcome) := ∃ d ∈ departures (Deed.log (first.history (us ++ v :: ws))),
      d.generation = generation ∧ d.outcome = some outcome
    q = p.respelled ∧ (p.IsText → q = p) ∧
    (files.kind? q ≠ none →
      Along (fun s u => ∀ r, s.asked? u = some (generation, r) →
        r = .kind q ∧ (s.move u).world.row? p = s.world.row? p) first (us ++ v :: ws) ∧
      ∀ outcome, reports outcome → outcome = .skipped .stillPresent) ∧
    (files.kind? q = none →
      Along (fun s u => ∀ r, s.asked? u = some (generation, r) → r = .kind q ∨ r = .remove q ∧
        ((s.world.update .remove (·.remove q)).1 = .ok () → (s.move u).world.row? p = none))
        first (us ++ v :: ws) ∧
      ∀ outcome, reports outcome → outcome = .removed ∨ outcome = .failed .store) := by
  intro first files reports
  have hspelled := FileTree.eq_respelled_of_sweep hswept hrecord
  have hthen : (first.moveAll us).Budgeted c backends (first.history us) :=
    budgeted_moveAll world c backends gate fun u hu => hlegal u (List.mem_append_left _ hu)
  have hlegal' : ∀ u ∈ ws, u.Legal := fun u hu =>
    hlegal u (List.mem_append_right _ (List.mem_cons_of_mem v hu))
  obtain ⟨-, hafter, hends⟩ := hthen.removal_along hlook hstart hlegal'
  have hbefore := not_asked_before_look hlegal hstart hlook
  have hwhole {Q : Session → Move → Prop}
      (hsilent : ∀ s u, (∀ r, s.asked? u ≠ some (generation, r)) → Q s u)
      (hnow : Q (first.moveAll us) v) (hrest : Along Q ((first.moveAll us).move v) ws) :
      Along Q first (us ++ v :: ws) :=
    along_append.mpr ⟨hbefore.mono hsilent, hnow, hrest⟩
  have hhistory : first.history us ++ (first.moveAll us).deeds v ++
      ((first.moveAll us).move v).history ws = first.history (us ++ v :: ws) := by
    rw [history_append, history, List.append_assoc]
  rw [hhistory] at hends
  have hfirstly (r : Request) (hr : (first.moveAll us).asked? v = some (generation, r)) :
      r = .kind q :=
    (Prod.mk.inj (Option.some.inj (hr.symm.trans hlook))).2
  refine ⟨hspelled, fun htext => hspelled.trans htext, fun hfound => ⟨?_, ?_⟩,
    fun hgone => ⟨?_, ?_⟩⟩
  · refine hwhole (fun s u hsilent r hr => absurd hr (hsilent r)) (fun r hr => ?_) ?_
    · obtain rfl := hfirstly r hr
      exact ⟨rfl, by rw [world_of_asked? hr]; rfl⟩
    · exact hafter.mono fun s u hasks r hr => absurd (hasks r hr).2.1 hfound
  · rintro outcome ⟨d, hd, hgeneration, houtcome⟩
    have hreport := hends d hd hgeneration outcome houtcome rfl
    rwa [if_neg hfound] at hreport
  · refine hwhole (fun s u hsilent r hr => absurd hr (hsilent r))
      (fun r hr => .inl (hfirstly r hr)) ?_
    refine hafter.mono fun s u hasks r hr => ?_
    obtain ⟨-, -, rfl⟩ := hasks r hr
    refine .inr ⟨rfl, fun hgranted => ?_⟩
    rw [world_of_asked? hr]
    exact World.row?_remove hrecord hgranted
  · rintro outcome ⟨d, hd, hgeneration, houtcome⟩
    have hreport := hends d hd hgeneration outcome houtcome rfl
    rwa [if_pos hgone] at hreport

/-- A picture is annotated and then to be removed, and the item for that is started. -/
def cameBack : List Move :=
  annotatedOnce pathA ++ [.deliver, .send (.removeStale pathA), .deliver]

/-- A sweep saw nothing of a picture, which has been annotated when its item looks: the record
stays. -/
theorem picture_spared_that_came_back :
    let s := (starting twoPictures onePicture ⟨true, false⟩ none).moveAll cameBack
    .removeStale pathA ∈ FileTree.sweep ⟨[]⟩ [pathA.text] ∧
      s.world.row? pathA = some ⟨0, 16, "[]"⟩ ∧
      Along (fun s u => ∀ r, s.asked? u = some (2, r) →
        r = .kind pathA ∧ (s.move u).world.row? pathA = s.world.row? pathA)
        (starting twoPictures onePicture ⟨true, false⟩ none)
        (cameBack ++ .task 0 :: [.task 0, .deliver]) ∧
      (s.moveAll [.task 0, .task 0, .deliver]).world.row? pathA = some ⟨0, 16, "[]"⟩ := by
  intro s
  have hlegal : ∀ u ∈ cameBack ++ .task 0 :: [.task 0, .deliver], u.Legal := by decide +kernel
  have hswept : .removeStale pathA ∈ FileTree.sweep ⟨[]⟩ [pathA.text] := by decide +kernel
  have hstart : (⟨pathA, .removeStale⟩, 2) ∈ starts (Deed.log
      ((starting twoPictures onePicture ⟨true, false⟩ none).history cameBack)) := by decide +kernel
  have hlook : s.asked? (.task 0) = some (2, .kind pathA) := by
    have hrequest : (s.asked? (.task 0)).map (fun x => (x.1, x.2.lookedAt?)) =
        some (2, some pathA) := by decide +kernel
    obtain ⟨⟨generation, r⟩, hasked, hsame⟩ := Option.map_eq_some_iff.mp hrequest
    obtain ⟨rfl, hkind⟩ := Prod.mk.inj hsame
    rw [hasked]
    exact congrArg (fun r => some (2, r)) (Request.eq_kind hkind)
  have hfound : s.world.files.kind? pathA ≠ none := by decide +kernel
  have hbefore : s.world.row? pathA = some ⟨0, 16, "[]"⟩ := by decide +kernel
  have hafter : (s.moveAll [.task 0, .task 0, .deliver]).world.row? pathA = some ⟨0, 16, "[]"⟩ := by
    decide +kernel
  obtain ⟨-, -, hspared, -⟩ :=
    swept_record_spared_if_found twoPictures onePicture ⟨true, false⟩ none ⟨[]⟩ [pathA.text] pathA
    pathA 2 cameBack [.task 0, .deliver] (.task 0) hlegal hswept rfl hstart hlook
  exact ⟨hswept, hbefore, (hspared hfound).1, hafter⟩

/-- A picture whose name is not UTF-8. -/
def unspellable : World :=
  { twoPictures with
    files :=
      let png : List UInt8 := [0x89, 0x50, 0x4E, 0x47, 0x0D, 0x0A, 0x1A, 0x0A]
      ⟨[([[0xFF, 0x2E, 0x70, 0x6E, 0x67]], .file ⟨png, 16⟩ 0)]⟩ }

/-- The record of a picture that is there all along is swept away, since its text spells another
path, at which nothing stands. -/
theorem living_record_removed :
    let p : Path := ⟨[0x2F, 0xFF, 0x2E, 0x70, 0x6E, 0x67]⟩
    let s := (starting unspellable onePicture ⟨true, false⟩ none).moveAll
      (annotatedOnce p ++ [.deliver])
    let swept := s.moveAll ((s.world.files.sweep [p.text]).map .send ++
      [.deliver, .task 0, .task 0, .task 0, .deliver])
    s.world.files.kind? p = some .file ∧ s.world.recorded.toOption = some [p.text] ∧
      s.world.files.sweep [p.text] = [.removeStale p.respelled] ∧
      swept.world.files.kind? p = some .file ∧ swept.scheduler.queue = [] ∧
      swept.scheduler.tally.removed = 1 ∧ swept.world.row? p = none := by
  decide +kernel

end Session

end Simulation

end PictureIndex
