import PictureIndex.Proofs.SettledPictures
import PictureIndex.Proofs.StoreAsMap
/-!
# What comes of annotating a picture

Annotating a picture asks the file system, the store, the decoder and the backends in turn, and may
end after each of them.  The store may refuse any call, the decoder may fail, and the backends
answer what they will; the files stay as they are (`Store.falters`).  `Store.heard` also keeps a
list of all that was asked and answered, so that it can be said what was asked when, and what not.

What is no picture worth indexing is rejected.  `Ending` lists the ways in which the annotation of
any other path may end: what has been asked after its recorded time was looked up, and what the
store is then.  Only one of them changes it, and there the record was inserted as the last thing of
all.

* `annotation_outcomes`: every annotation ends, and when it does, the outcome tells what has been
  asked and what the store holds.
-/

namespace PictureIndex

/-! ## Surroundings that may fail -/

/-- A request and its answer. -/
structure Exchange where
  /-- What was asked. -/
  request : Request
  /-- What was answered. -/
  answer : request.Answer

/-- The requests of a list of exchanges. -/
def asked (log : List Exchange) : List Request := log.map (·.request)

@[simp] lemma asked_nil : asked [] = [] := rfl

@[simp] lemma asked_cons (x : Exchange) (log : List Exchange) :
    asked (x :: log) = x.request :: asked log := rfl

@[simp] lemma asked_append (log log' : List Exchange) :
    asked (log ++ log') = asked log ++ asked log' :=
  List.map_append

/-- Whether the answer to a request is that the store refuses it. -/
def Request.Refused : (r : Request) → r.Answer → Prop
  | .recordedTime _, a => ∃ error, a = .error error
  | .insert _, a => ∃ error, a = .error error
  | .remove _, a => ∃ error, a = .error error
  | .under _, a => ∃ error, a = .error error
  | _, _ => False

namespace Store

/-- Surroundings in which the files are these and the store may refuse what it is asked; the decoder
and the backends may answer anything. -/
def falters (files : FileTree) : Surroundings Store := fun s r a s' =>
  serves files (fun _ _ => True) s r a s' ∨ r.Refused a ∧ s' = s

/-- The same surroundings with a list of what has been asked and answered. -/
def heard (files : FileTree) : Surroundings (Store × List Exchange) := fun x r a y =>
  falters files x.1 r a y.1 ∧ y.2 = x.2 ++ [⟨r, a⟩]

section

variable {files : FileTree} {s s' : Store}

lemma falters_insert {r : Record} {answer : Except Error Unit} :
    falters files s (.insert r) answer s' ↔
      (answer = .ok () ∧ s.insert r = .ok s') ∨ (∃ error, answer = .error error) ∧ s' = s := by
  show (answer, s') = s.attempt (s.insert r) ∨ _ ↔ _
  cases h : s.insert r <;> simp [attempt, Request.Refused, eq_comm] <;> tauto

lemma falters_remove {p : Path} {answer : Except Error Unit} :
    falters files s (.remove p) answer s' ↔
      (answer = .ok () ∧ s.remove p = .ok s') ∨ (∃ error, answer = .error error) ∧ s' = s := by
  show (answer, s') = s.attempt (s.remove p) ∨ _ ↔ _
  cases h : s.remove p <;> simp [attempt, Request.Refused, eq_comm] <;> tauto

/-- Other requests than these two leave the store as it is. -/
lemma store_of_falters {r : Request} {a : r.Answer} (hinsert : ∀ record, r ≠ .insert record)
    (hremove : ∀ p, r ≠ .remove p) (h : falters files s r a s') : s' = s := by
  rcases h with h | ⟨-, rfl⟩
  · cases r with
    | insert record => exact absurd rfl (hinsert record)
    | remove p => exact absurd rfl (hremove p)
    | arm => exact h
    | abort => exact h.elim
    | _ => exact h.2
  · rfl

/-- What is asked about the files is not refused, and answered as they are. -/
lemma told_of_falters {r : Request} {a : r.Answer} (h : falters files s r a s') :
    Pipeline.told files r a := by
  rcases h with hserves | ⟨hrefused, -⟩
  · exact told_of_serves hserves
  · cases r with
    | kind | sniff | info => exact hrefused.elim
    | _ => trivial

/-- Every request has an answer, unless a task takes itself down. -/
lemma exists_falters (files : FileTree) (s : Store) {r : Request} (hr : r ≠ .abort) :
    ∃ a s', falters files s r a s' := by
  have hserves : ∃ a s', serves files (fun _ _ => True) s r a s' := by
    cases r with
    | insert record => exact ⟨_, _, rfl⟩
    | remove p => exact ⟨_, _, rfl⟩
    | arm => exact ⟨(), s, rfl⟩
    | decode p => exact ⟨none, s, trivial, rfl⟩
    | recognise b => exact ⟨.error (.ocr ""), s, trivial, rfl⟩
    | classify p => exact ⟨.error (.classifier ""), s, trivial, rfl⟩
    | abort => exact absurd rfl hr
    | _ => exact ⟨_, s, rfl, rfl⟩
  obtain ⟨a, s', h⟩ := hserves
  exact ⟨a, s', .inl h⟩

end

end Store

namespace Plan

variable {σ : Type*} {α : Type} {S : Surroundings σ} {s s' s'' : σ} {p q : Plan α}

lemma Reaches.trans {q' : Plan α} (h : Reaches S s p s' q) (h' : Reaches S s' q s'' q') :
    Reaches S s p s'' q' := by
  induction h' with
  | refl => exact h
  | step _ hanswer ih => exact .step ih hanswer

variable {files : FileTree} {a b : Store} {log log' : List Exchange}

/-- What has been asked and answered is not forgotten. -/
lemma Reaches.log_prefix {x y : Store × List Exchange}
    (h : Reaches (Store.heard files) x p y q) : x.2 <+: y.2 := by
  induction h with
  | refl => exact List.prefix_rfl
  | step _ hanswer ih => exact ih.trans ⟨_, hanswer.2.symm⟩

lemma runs_heard_done {found outcome : α} :
    Runs (Store.heard files) (a, log) (done outcome) found (b, log') ↔
      found = outcome ∧ b = a ∧ log' = log := by
  rw [runs_done, Prod.mk.injEq]

lemma runs_heard_ask {r : Request} {next : r.Answer → Plan α} {found : α} :
    Runs (Store.heard files) (a, log) (ask r next) found (b, log') ↔
      ∃ answer a', Store.falters files a r answer a' ∧
        Runs (Store.heard files) (a', log ++ [⟨r, answer⟩]) (next answer) found (b, log') := by
  rw [runs_ask]
  constructor
  · rintro ⟨answer, ⟨a', _⟩, ⟨hanswer, rfl⟩, hrest⟩
    exact ⟨answer, a', hanswer, hrest⟩
  · rintro ⟨answer, a', hanswer, hrest⟩
    exact ⟨answer, (a', _), ⟨hanswer, rfl⟩, hrest⟩

lemma exists_runs_ask {r : Request} {next : r.Answer → Plan α} {found : α} (answer : r.Answer)
    (hanswer : Store.falters files a r answer b)
    (hrest : ∃ y, Runs (Store.heard files) (b, log ++ [⟨r, answer⟩]) (next answer) found y) :
    ∃ y, Runs (Store.heard files) (a, log) (ask r next) found y := by
  obtain ⟨⟨b', log'⟩, hrest⟩ := hrest
  exact ⟨_, runs_heard_ask.mpr ⟨answer, b, hanswer, hrest⟩⟩

/-- A plan that does not break down can be carried out to its end, with any answers that can be
given one by one. -/
lemma exists_heard {may : (r : Request) → r.Answer → Prop} {reports : α → Prop} {I : Store → Prop}
    (hanswer : ∀ s r, I s → r ≠ .abort → ∃ answer s', Store.falters files s r answer s' ∧
      I s' ∧ may r answer) {plan : Plan α}
    (hplan : plan.Abides (Pipeline.told files) (· ≠ .abort) reports) (ha : I a)
    (log : List Exchange) :
    ∃ found a' new, Runs (Store.heard files) (a, log) plan found (a', log ++ new) ∧
      ∀ x ∈ new, may x.request x.answer := by
  induction plan generalizing a log with
  | done found => exact ⟨found, a, [], by simp, by simp⟩
  | ask r next ih =>
    obtain ⟨answer, t, hfirst, ht, hmay⟩ := hanswer a r ha hplan.1
    obtain ⟨found, a', new, hruns, hnew⟩ :=
      ih answer (hplan.2 answer (Store.told_of_falters hfirst)) ht (log ++ [⟨r, answer⟩])
    rw [List.append_assoc] at hruns
    exact ⟨found, a', ⟨r, answer⟩ :: new, runs_heard_ask.mpr ⟨answer, t, hfirst, hruns⟩,
      List.forall_mem_cons.mpr ⟨hmay, hnew⟩⟩

end Plan

/-! ## Pictures at the end of a path -/

/-- Whether a path leads, links followed, to a picture worth indexing: a regular file with the
extension of a picture, neither empty nor too large, whose first bytes are those of a type that is
indexed. -/
def FileTree.LeadsToPicture (t : FileTree) (maxSize : Nat) (p : Path) : Prop :=
  ∃ content modified, t.target? p = some (.file content modified) ∧ p.isCandidate = true ∧
    1 ≤ content.size ∧ content.size ≤ maxSize ∧
    (PictureType.ofHeader (content.take PictureType.headerLength)).isIndexable = true

lemma FileTree.leadsToPicture_iff {t : FileTree} {maxSize : Nat} {p : Path} :
    t.LeadsToPicture maxSize p ↔ ∃ info, t.info? p = some info ∧ 1 ≤ info.sizeBytes ∧
      info.sizeBytes ≤ maxSize ∧ (t.pictureType p).isIndexable = true := by
  rw [LeadsToPicture, info?, pictureType, read?]
  rcases t.target? p with _ | _ | _ | ⟨content, modified⟩ | _ <;>
    cases p.isCandidate <;> simp [PictureType.isIndexable]

/-! ## What a change leaves alone -/

namespace Store

variable {s s' : Store} {r : Record} {p q : Path}

/-- Whether two stores differ in the record of a path at most. -/
def SameBeside (p : Path) (s s' : Store) : Prop :=
  s'.settings = s.settings ∧
    ∀ q : Path, q.text ≠ p.text → s'.get q = s.get q ∧ s'.lastModified? q = s.lastModified? q

lemma sameBeside_refl (p : Path) (s : Store) : SameBeside p s s := ⟨rfl, fun _ _ => ⟨rfl, rfl⟩⟩

lemma exists_of_insert (h : s.insert r = .ok s') : ∃ t, s.pictures = some t ∧
    s' = { s with pictures := some (t.insert r.path.text (rowOf r)) } := by
  cases ht : s.pictures with
  | none => simp [insert, putRow, pictureTable, ht, bind, Except.bind] at h
  | some t =>
    rw [insert_eq ht] at h
    exact ⟨t, rfl, (Except.ok.inj h).symm⟩

lemma exists_of_remove (h : s.remove p = .ok s') : ∃ t, s.pictures = some t ∧
    s' = { s with pictures := some (t.erase p.text) } := by
  cases ht : s.pictures with
  | none => simp [remove, delete, pictureTable, ht, bind, Except.bind, Except.map] at h
  | some t =>
    rw [remove_eq ht] at h
    exact ⟨t, rfl, (Except.ok.inj h).symm⟩

lemma sameBeside_insert (h : s.insert r = .ok s') : SameBeside r.path s s' := by
  obtain ⟨t, ht, rfl⟩ := exists_of_insert h
  refine ⟨rfl, fun q hq => ?_⟩
  rw [get_eq rfl, get_eq ht, lastModified?_eq rfl, lastModified?_eq ht, Table.find?_insert,
    if_neg hq]
  exact ⟨rfl, rfl⟩

lemma sameBeside_remove (h : s.remove p = .ok s') : SameBeside p s s' := by
  obtain ⟨t, ht, rfl⟩ := exists_of_remove h
  refine ⟨rfl, fun q hq => ?_⟩
  rw [get_eq rfl, get_eq ht, lastModified?_eq rfl, lastModified?_eq ht, Table.find?_erase,
    if_neg hq]
  exact ⟨rfl, rfl⟩

/-- A record that was inserted is found. -/
lemma get_of_insert (hr : r.Storable) (h : s.insert r = .ok s') :
    s'.get r.path = .ok (some r.kept) := by
  obtain ⟨t, ht, rfl⟩ := exists_of_insert h
  rw [get_eq rfl, Table.find?_insert, if_pos rfl]
  simp only [readRow_rowOf hr]
  rfl

/-- A record that was removed is not found. -/
lemma get_of_remove (h : s.remove p = .ok s') :
    s'.get p = .ok none ∧ s'.lastModified? p = .ok none := by
  obtain ⟨t, ht, rfl⟩ := exists_of_remove h
  rw [get_eq rfl, lastModified?_eq rfl, Table.find?_erase, if_pos rfl]
  exact ⟨rfl, rfl⟩

end Store

namespace Pipeline

open Plan

/-- What a stage asks about a picture. -/
def Stage.request? (p : Path) (bitmap : Bitmap) : Stage → Option Request
  | .ocr => some (.recognise bitmap)
  | .classifier => some (.classify p)
  | .fileName => none

/-- What is asked of the backends about a picture. -/
def consults (e : Pipeline) (p : Path) (bitmap : Bitmap) : List Request :=
  e.stages.filterMap (·.request? p bitmap)

/-- How the annotation of a picture may end that is worth indexing: the outcome, what has been asked
after the recorded time, and the store. -/
inductive Ending (e : Pipeline) (p : Path) (time : Instant) (size : Nat) (s : Store) :
    Outcome → List Request → Store → Prop
  /-- The record is up to date. -/
  | unchanged : Ending e p time size s (.skipped .unchanged) [] s
  /-- The budget is spent. -/
  | budgetReached : Ending e p time size s (.skipped .budgetReached) [] s
  /-- The decoder has failed. -/
  | undecoded : Ending e p time size s (.failed .decode) [.decode p] s
  /-- There is nobody to ask. -/
  | noBackend : Ending e p time size s (.failed .noBackend) [.decode p, .arm] s
  /-- All stages have failed. -/
  | backends (bitmap : Bitmap) :
    Ending e p time size s (.failed .backends) ([.decode p, .arm] ++ e.consults p bitmap) s
  /-- The store has refused the record. -/
  | refused (bitmap : Bitmap) (words : WordSet) :
    Ending e p time size s (.failed .store) ([.decode p, .arm] ++ e.consults p bitmap ++
      [.insert ⟨p, time, UInt64.ofNat size, words⟩]) s
  /-- The store has the record. -/
  | annotated (bitmap : Bitmap) (words : WordSet) {s' : Store}
    (hinsert : s.insert ⟨p, time, UInt64.ofNat size, words⟩ = .ok s') :
    Ending e p time size s (.annotated words.size) ([.decode p, .arm] ++ e.consults p bitmap ++
      [.insert ⟨p, time, UInt64.ofNat size, words⟩]) s'

section

variable {e : Pipeline} {files : FileTree} {p : Path} {bitmap : Bitmap} {time : Instant}
  {size : Nat} {exhausted : Bool} {a b : Store} {log log' : List Exchange} {outcome : Outcome}

/-! ## Request by request -/

/-- A stage asks its backend once, and whatever it is told, the store is as before. -/
lemma heard_of_runStage {ws : WordSet} {stage : Stage} {found : Option WordSet}
    (hruns : Runs (Store.heard files) (a, log) (e.runStage p bitmap ws stage) found (b, log')) :
    b = a ∧ ∃ new, log' = log ++ new ∧ asked new = (stage.request? p bitmap).toList := by
  cases stage with
  | ocr =>
    rw [runStage, request_bind, runs_heard_ask] at hruns
    obtain ⟨answer, a', hanswer, hdone⟩ := hruns
    obtain rfl := Store.store_of_falters (by simp) (by simp) hanswer
    cases answer with
    | error | ok =>
      obtain ⟨-, rfl, rfl⟩ := runs_heard_done.mp hdone
      exact ⟨rfl, _, rfl, rfl⟩
  | classifier =>
    rw [runStage, request_bind, runs_heard_ask] at hruns
    obtain ⟨answer, a', hanswer, hdone⟩ := hruns
    obtain rfl := Store.store_of_falters (by simp) (by simp) hanswer
    have hsame : b = a' ∧ log' = log ++ [⟨.classify p, answer⟩] := by
      cases answer with
      | error => exact (runs_heard_done.mp hdone).2
      | ok answer =>
        simp only at hdone
        split at hdone <;> exact (runs_heard_done.mp hdone).2
    obtain ⟨rfl, rfl⟩ := hsame
    exact ⟨rfl, _, rfl, rfl⟩
  | fileName =>
    obtain ⟨-, rfl, rfl⟩ := runs_heard_done.mp hruns
    exact ⟨rfl, [], (List.append_nil _).symm, rfl⟩

/-- The stages ask one after the other. -/
lemma heard_of_runStages {ws : WordSet} {stages : List Stage} {found : WordSet × Nat}
    (hruns : Runs (Store.heard files) (a, log) (e.runStages p bitmap ws stages) found (b, log')) :
    b = a ∧ ∃ new, log' = log ++ new ∧ asked new = stages.filterMap (·.request? p bitmap) := by
  induction stages generalizing ws found b log log' with
  | nil =>
    obtain ⟨-, rfl, rfl⟩ := runs_heard_done.mp hruns
    exact ⟨rfl, [], (List.append_nil _).symm, rfl⟩
  | cons stage rest ih =>
    rw [runStages, runs_bind] at hruns
    obtain ⟨first, ⟨a', log₁⟩, hstage, hrest⟩ := hruns
    obtain ⟨rfl, new, rfl, hnew⟩ := heard_of_runStage hstage
    have hlater : ∃ ws found, Runs (Store.heard files) (a', log ++ new)
        (e.runStages p bitmap ws rest) found (b, log') := by
      cases first with
      | none => exact ⟨_, _, hrest⟩
      | some ws =>
        rw [runs_bind] at hrest
        obtain ⟨later, ⟨b', log₂⟩, hlater, hdone⟩ := hrest
        obtain ⟨-, rfl, rfl⟩ := runs_heard_done.mp hdone
        exact ⟨_, _, hlater⟩
    obtain ⟨ws, found, hlater⟩ := hlater
    obtain ⟨rfl, later, rfl, hasked⟩ := ih hlater
    refine ⟨rfl, new ++ later, List.append_assoc .., ?_⟩
    rw [asked_append, hnew, hasked, List.filterMap_cons]
    cases stage.request? p bitmap <;> rfl

/-- What is rejected is removed, if the store lets it. -/
lemma heard_of_reject
    (hruns : Runs (Store.heard files) (a, log) (reject p) outcome (b, log')) :
    outcome = .rejected ∧ ∃ answer, log' = log ++ [⟨.remove p, answer⟩] ∧
      ((answer = .ok () ∧ a.remove p = .ok b) ∨ (∃ error, answer = .error error) ∧ b = a) := by
  rw [reject, request_bind, runs_heard_ask] at hruns
  obtain ⟨answer, a', hanswer, hdone⟩ := hruns
  obtain ⟨rfl, rfl, rfl⟩ := runs_heard_done.mp hdone
  exact ⟨rfl, answer, rfl, Store.falters_remove.mp hanswer⟩

/-- How the description of a decoded picture may end, after what has been heard: the outcome, the
store, and what has been heard then. -/
inductive Described (e : Pipeline) (files : FileTree) (p : Path) (bitmap : Bitmap) (time : Instant)
    (size : Nat) (s : Store) (log : List Exchange) : Outcome → Store → List Exchange → Prop
  /-- There is nobody to ask. -/
  | noBackend (hnone : e.stages = []) :
    Described e files p bitmap time size s log (.failed .noBackend) s log
  /-- All stages have failed. -/
  | backends {words : WordSet} {new : List Exchange} (hnew : asked new = e.consults p bitmap)
    (hstages : Runs (Store.heard files) (s, log) (e.runStages p bitmap Table.empty e.stages)
      (words, 0) (s, log ++ new)) :
    Described e files p bitmap time size s log (.failed .backends) s (log ++ new)
  /-- The store has refused the record. -/
  | refused {words : WordSet} {n : Nat} {new : List Exchange}
    (hnew : asked new = e.consults p bitmap) (hn : n ≠ 0)
    (hstages : Runs (Store.heard files) (s, log) (e.runStages p bitmap Table.empty e.stages)
      (words, n) (s, log ++ new)) (error : Error) :
    Described e files p bitmap time size s log (.failed .store) s
      (log ++ new ++ [⟨.insert ⟨p, time, UInt64.ofNat size, words⟩, .error error⟩])
  /-- The store has the record. -/
  | annotated {words : WordSet} {n : Nat} {new : List Exchange} {s' : Store}
    (hnew : asked new = e.consults p bitmap) (hn : n ≠ 0)
    (hstages : Runs (Store.heard files) (s, log) (e.runStages p bitmap Table.empty e.stages)
      (words, n) (s, log ++ new))
    (hinsert : s.insert ⟨p, time, UInt64.ofNat size, words⟩ = .ok s') :
    Described e files p bitmap time size s log (.annotated words.size) s'
      (log ++ new ++ [⟨.insert ⟨p, time, UInt64.ofNat size, words⟩, .ok ()⟩])

/-- Describing a picture is to ask the backends, and to insert the record if one has answered. -/
lemma heard_of_describe
    (hruns : Runs (Store.heard files) (a, log) (e.describe p bitmap time size) outcome (b, log')) :
    Described e files p bitmap time size a log outcome b log' := by
  rw [describe] at hruns
  split at hruns
  · rename_i hnone
    obtain ⟨rfl, rfl, rfl⟩ := runs_heard_done.mp hruns
    exact .noBackend (List.isEmpty_iff.mp hnone)
  rw [runs_bind] at hruns
  obtain ⟨⟨words, n⟩, ⟨a', log₁⟩, hstages, hruns⟩ := hruns
  obtain ⟨rfl, new, rfl, hnew⟩ := heard_of_runStages hstages
  simp only at hruns
  split at hruns
  · rename_i hzero
    subst hzero
    obtain ⟨rfl, rfl, rfl⟩ := runs_heard_done.mp hruns
    exact .backends hnew hstages
  rename_i hn
  rw [request_bind, runs_heard_ask] at hruns
  obtain ⟨answer, a'', hinsert, hruns⟩ := hruns
  obtain ⟨rfl, hinserted⟩ | ⟨⟨error, rfl⟩, rfl⟩ := Store.falters_insert.mp hinsert
  · obtain ⟨rfl, rfl, rfl⟩ := runs_heard_done.mp hruns
    exact .annotated hnew hn hstages hinserted
  · obtain ⟨rfl, rfl, rfl⟩ := runs_heard_done.mp hruns
    exact .refused hnew hn hstages error

/-- A decoded picture is described. -/
lemma ending_of_describe
    (hruns : Runs (Store.heard files) (a, log) (e.describe p bitmap time size) outcome (b, log')) :
    ∃ new, log' = log ++ new ∧
      e.Ending p time size a outcome ([.decode p, .arm] ++ asked new) b := by
  cases heard_of_describe hruns with
  | noBackend => exact ⟨[], (List.append_nil _).symm, .noBackend⟩
  | backends hnew =>
    refine ⟨_, rfl, ?_⟩
    rw [hnew]
    exact .backends bitmap
  | refused hnew _ _ error =>
    refine ⟨_, List.append_assoc .., ?_⟩
    rw [asked_append, hnew, ← List.append_assoc]
    exact .refused bitmap _
  | annotated hnew _ _ hinsert =>
    refine ⟨_, List.append_assoc .., ?_⟩
    rw [asked_append, hnew, ← List.append_assoc]
    exact .annotated bitmap _ hinsert

/-- A picture is decoded and then described. -/
lemma heard_of_develop
    (hruns : Runs (Store.heard files) (a, log) (e.develop p time size) outcome (b, log')) :
    (outcome = .failed .decode ∧ b = a ∧ log' = log ++ [⟨.decode p, none⟩]) ∨
    ∃ bitmap, Runs (Store.heard files) (a, log ++ [⟨.decode p, some bitmap⟩, ⟨.arm, ()⟩])
      (e.describe p bitmap time size) outcome (b, log') := by
  rw [develop, request_bind, runs_heard_ask] at hruns
  obtain ⟨decoded, a', hanswer, hruns⟩ := hruns
  obtain rfl := Store.store_of_falters (by simp) (by simp) hanswer
  cases decoded with
  | none =>
    obtain ⟨rfl, rfl, rfl⟩ := runs_heard_done.mp hruns
    exact .inl ⟨rfl, rfl, rfl⟩
  | some bitmap =>
    simp only [request_bind] at hruns
    rw [runs_heard_ask] at hruns
    obtain ⟨armed, a', hanswer, hruns⟩ := hruns
    obtain rfl := Store.store_of_falters (by simp) (by simp) hanswer
    rw [List.append_assoc] at hruns
    exact .inr ⟨bitmap, hruns⟩

lemma ending_of_develop
    (hruns : Runs (Store.heard files) (a, log) (e.develop p time size) outcome (b, log')) :
    (∀ reason, outcome ≠ .skipped reason) ∧
      ∃ new, log' = log ++ new ∧ e.Ending p time size a outcome (asked new) b := by
  obtain ⟨rfl, rfl, rfl⟩ | ⟨bitmap, hdescribe⟩ := heard_of_develop hruns
  · exact ⟨by simp, _, rfl, .undecoded⟩
  · obtain ⟨new, rfl, hending⟩ := ending_of_describe hdescribe
    refine ⟨?_, ⟨.decode p, some bitmap⟩ :: ⟨.arm, ()⟩ :: new, by simp, hending⟩
    rintro reason rfl
    nomatch hending

lemma toOption_eq_some {x : Except Error (Option Instant)} {y : Option Instant} :
    x.toOption = some y ↔ x = .ok y := by
  cases x <;> simp [Except.toOption]

/-- What is done about a picture depends on its recorded time and on the budget. -/
lemma heard_of_refresh
    (hruns : Runs (Store.heard files) (a, log) (e.refresh exhausted p time size) outcome
      (b, log')) :
    ∃ recorded : Except Error (Option Instant),
      (recorded = .ok (some time) ∧ outcome = .skipped .unchanged ∧ b = a ∧
        log' = log ++ [⟨.recordedTime p, recorded⟩]) ∨
      (recorded ≠ .ok (some time) ∧ exhausted = true ∧ outcome = .skipped .budgetReached ∧ b = a ∧
        log' = log ++ [⟨.recordedTime p, recorded⟩]) ∨
      (recorded ≠ .ok (some time) ∧ exhausted = false ∧
        Runs (Store.heard files) (a, log ++ [⟨.recordedTime p, recorded⟩]) (e.develop p time size)
          outcome (b, log')) := by
  rw [refresh, request_bind] at hruns
  replace hruns := runs_heard_ask.mp hruns
  obtain ⟨recorded, a', hanswer, hruns⟩ := hruns
  obtain rfl := Store.store_of_falters (by simp) (by simp) hanswer
  refine ⟨recorded, ?_⟩
  split at hruns
  · rename_i hsame
    obtain ⟨rfl, rfl, rfl⟩ := runs_heard_done.mp hruns
    exact .inl ⟨toOption_eq_some.mp hsame, rfl, rfl, rfl⟩
  rename_i hother
  have hother := mt toOption_eq_some.mpr hother
  split at hruns
  · rename_i hspent
    obtain ⟨rfl, rfl, rfl⟩ := runs_heard_done.mp hruns
    exact .inr (.inl ⟨hother, hspent, rfl, rfl, rfl⟩)
  · rename_i hleft
    exact .inr (.inr ⟨hother, Bool.eq_false_of_not_eq_true hleft, hruns⟩)

lemma ending_of_refresh
    (hruns : Runs (Store.heard files) (a, log) (e.refresh exhausted p time size) outcome
      (b, log')) :
    ∃ recorded new, log' = log ++ ⟨.recordedTime p, recorded⟩ :: new ∧
      e.Ending p time size a outcome (asked new) b ∧
      (outcome = .skipped .unchanged ↔ recorded = Except.ok (some time)) ∧
      (outcome = .skipped .budgetReached ↔
        recorded ≠ Except.ok (some time) ∧ exhausted = true) := by
  obtain ⟨recorded, ⟨hsame, rfl, rfl, rfl⟩ | ⟨hother, hspent, rfl, rfl, rfl⟩ |
    ⟨hother, hleft, hdevelop⟩⟩ := heard_of_refresh hruns
  · exact ⟨recorded, [], rfl, .unchanged, iff_of_true rfl hsame,
      iff_of_false (by simp) fun h => h.1 hsame⟩
  · exact ⟨recorded, [], rfl, .budgetReached, iff_of_false (by simp) hother,
      iff_of_true rfl ⟨hother, hspent⟩⟩
  · obtain ⟨hskipped, new, rfl, hending⟩ := ending_of_develop hdevelop
    exact ⟨recorded, new, List.append_assoc .., hending, iff_of_false (hskipped _) hother,
      iff_of_false (hskipped _) fun h => by simp [hleft] at h⟩

/-- Every annotation starts by looking at the file.  One that comes to an end has rejected what is
no picture, or has read the time of the picture. -/
lemma heard_of_annotate
    (hruns : Runs (Store.heard files) (a, []) (e.annotate exhausted p) outcome (b, log)) :
    (¬ files.LeadsToPicture e.maxSize p ∧
      ∃ checks, Runs (Store.heard files) (a, checks) (reject p) outcome (b, log) ∧
        (asked checks = [.info p] ∨ asked checks = [.info p, .sniff p])) ∨
    (files.LeadsToPicture e.maxSize p ∧ ∃ info time, files.info? p = some info ∧
      info.modified = some time ∧ Runs (Store.heard files)
        (a, [⟨.info p, some info⟩, ⟨.sniff p, files.pictureType p⟩])
        (e.refresh exhausted p time info.sizeBytes) outcome (b, log)) := by
  rw [annotate_eq] at hruns
  replace hruns := runs_heard_ask.mp hruns
  obtain ⟨answer, a', ⟨hanswer, rfl⟩ | hrefused, hruns⟩ := hruns
  swap
  · exact hrefused.1.elim
  obtain rfl : answer = files.info? p := hanswer
  rw [FileTree.leadsToPicture_iff]
  cases hinfo : files.info? p with
  | none =>
    rw [hinfo] at hruns
    exact .inl ⟨by simp, _, hruns, .inl rfl⟩
  | some info =>
    rw [hinfo] at hruns
    simp only at hruns
    split at hruns
    · rename_i hsize
      refine .inl ⟨?_, _, hruns, .inl rfl⟩
      rintro ⟨_, ⟨⟩, hlow, hhigh, -⟩
      simp only [Bool.or_eq_true, decide_eq_true_eq] at hsize
      omega
    rename_i hsize
    replace hruns := runs_heard_ask.mp hruns
    obtain ⟨type, a', ⟨htype, rfl⟩ | hrefused, hruns⟩ := hruns
    swap
    · exact hrefused.1.elim
    obtain rfl : type = files.pictureType p := htype
    split at hruns
    · rename_i htype
      refine .inl ⟨?_, _, hruns, .inr rfl⟩
      rintro ⟨_, ⟨⟩, -, -, hindexable⟩
      simp [hindexable] at htype
    · rename_i htype
      simp only [Bool.or_eq_true, decide_eq_true_eq] at hsize
      cases hmodified : info.modified with
      | none =>
        rw [hmodified] at hruns
        exact absurd hruns not_runs_abort
      | some time =>
        rw [hmodified] at hruns
        exact .inr ⟨⟨info, rfl, by omega, by omega, by simpa using htype⟩, info, time, rfl,
          hmodified, hruns⟩

/-! ## Endings -/

lemma length_stages (e : Pipeline) : e.stages.length ≤ 2 := by
  rw [stages]
  split
  · split <;> simp
  · rw [List.length_map, Backends.kinds]
    cases e.backends.ocr <;> cases e.backends.contentClassifier <;> simp

lemma length_consults (e : Pipeline) (p : Path) (bitmap : Bitmap) :
    (e.consults p bitmap).length ≤ 2 :=
  (List.length_filterMap_le _ _).trans e.length_stages

lemma countP_consults (e : Pipeline) (p : Path) (bitmap : Bitmap) :
    (e.consults p bitmap).countP (·.isDecode) = 0 := by
  rw [List.countP_eq_zero]
  intro r hr
  obtain ⟨stage, -, hstage⟩ := List.mem_filterMap.mp hr
  cases stage <;> simp only [Stage.request?, Option.some.injEq, reduceCtorEq] at hstage <;>
    subst hstage <;> simp [Request.isDecode]

namespace Ending

variable {rs : List Request} {s s' : Store}

lemma length_le (h : e.Ending p time size s outcome rs s') : rs.length ≤ 5 := by
  have hconsults := e.length_consults p
  cases h with
  | backends bitmap | refused bitmap | annotated bitmap =>
    have := hconsults bitmap
    simp only [List.length_append, List.length_cons, List.length_nil]
    omega
  | _ => simp

/-- The decoder is called at most once. -/
lemma countP_le (h : e.Ending p time size s outcome rs s') : rs.countP (·.isDecode) ≤ 1 := by
  have hconsults := e.countP_consults p
  cases h with
  | backends bitmap | refused bitmap | annotated bitmap =>
    simp only [List.countP_append, hconsults bitmap]
    exact Nat.le_refl 1
  | undecoded | noBackend => exact Nat.le_refl 1
  | unchanged | budgetReached => exact Nat.zero_le 1

/-- A picture that is not passed over is decoded. -/
lemma decode_mem (h : e.Ending p time size s outcome rs s')
    (hchanged : outcome ≠ .skipped .unchanged) (hbudget : outcome ≠ .skipped .budgetReached) :
    .decode p ∈ rs := by
  cases h with
  | unchanged => exact absurd rfl hchanged
  | budgetReached => exact absurd rfl hbudget
  | _ => simp

/-- Only a record that was inserted changes the store. -/
lemma store_eq (h : e.Ending p time size s outcome rs s') (hother : ∀ n, outcome ≠ .annotated n) :
    s' = s := by
  cases h with
  | annotated => exact absurd rfl (hother _)
  | _ => rfl

lemma sameBeside (h : e.Ending p time size s outcome rs s') : s.SameBeside p s' := by
  cases h with
  | annotated bitmap words hinsert => exact Store.sameBeside_insert hinsert
  | _ => exact Store.sameBeside_refl p s

/-- The record of an annotated picture has the time and the size that were read, and as many words
as are reported. -/
lemma get_of_annotated (hp : p.IsText) (htime : Instant.ofMicros? time.micros = some time)
    (hsize : size < 0x8000000000000000) {n : Nat}
    (h : e.Ending p time size s (.annotated n) rs s') :
    ∃ words : WordSet, words.size = n ∧
      s'.get p = .ok (some ⟨p, time, UInt64.ofNat size, words⟩) := by
  have hordinary := Instant.isOrdinary_of_ofMicros? htime
  have hdown : time.nanos / 1000 * 1000 = time.nanos :=
    Nat.div_mul_cancel (Nat.dvd_of_mod_eq_zero (Instant.nanos_of_ofMicros? htime))
  cases h with
  | annotated bitmap words hinsert =>
    refine ⟨words, rfl, ?_⟩
    have hstorable : Record.Storable ⟨p, time, UInt64.ofNat size, words⟩ := by
      refine ⟨hp, ?_, hordinary⟩
      rw [UInt64.toNat_ofNat']
      exact Nat.lt_of_le_of_lt (Nat.mod_le _ _) hsize
    have hget := Store.get_of_insert hstorable hinsert
    rwa [Record.kept, hdown] at hget

end Ending

/-- An annotation has rejected its path, or it has looked up the recorded time of a picture and come
to an ending. -/
lemma annotate_cases
    (hruns : Runs (Store.heard files) (a, []) (e.annotate exhausted p) outcome (b, log)) :
    (¬ files.LeadsToPicture e.maxSize p ∧ outcome = .rejected ∧
      (asked log = [.info p, .remove p] ∨ asked log = [.info p, .sniff p, .remove p]) ∧
      (a.remove p = .ok b ∨ b = a ∧ ∃ error, ⟨.remove p, Except.error error⟩ ∈ log)) ∨
    (files.LeadsToPicture e.maxSize p ∧ ∃ info time recorded new, files.info? p = some info ∧
      info.modified = some time ∧ log = [⟨.info p, some info⟩, ⟨.sniff p, files.pictureType p⟩,
        ⟨.recordedTime p, recorded⟩] ++ new ∧
      e.Ending p time info.sizeBytes a outcome (asked new) b ∧
      (outcome = .skipped .unchanged ↔ recorded = Except.ok (some time)) ∧
      (outcome = .skipped .budgetReached ↔
        recorded ≠ Except.ok (some time) ∧ exhausted = true)) := by
  obtain ⟨hpicture, checks, hreject, hchecks⟩ |
    ⟨hpicture, info, time, hinfo, hmodified, hrefresh⟩ := heard_of_annotate hruns
  · obtain ⟨rfl, answer, rfl, hanswer⟩ := heard_of_reject hreject
    refine .inl ⟨hpicture, rfl, ?_, ?_⟩
    · rcases hchecks with hchecks | hchecks <;> simp [hchecks]
    · obtain ⟨-, hremove⟩ | ⟨⟨error, rfl⟩, rfl⟩ := hanswer
      · exact .inl hremove
      · exact .inr ⟨rfl, error, by simp⟩
  · obtain ⟨recorded, new, rfl, hending⟩ := ending_of_refresh hrefresh
    exact .inr ⟨hpicture, info, time, recorded, new, hinfo, hmodified, rfl, hending⟩

/-- An annotation puts at most eight requests. -/
lemma length_le_of_annotate
    (hruns : Runs (Store.heard files) (a, []) (e.annotate exhausted p) outcome (b, log)) :
    log.length ≤ 8 := by
  rw [← show (asked log).length = log.length from List.length_map _]
  obtain ⟨-, -, hasked, -⟩ | ⟨-, info, time, recorded, new, -, -, rfl, hending, -⟩ :=
    annotate_cases hruns
  · rcases hasked with hasked | hasked <;> simp [hasked]
  · have hnew := hending.length_le
    simp only [asked_append, asked_cons, asked_nil, List.length_append, List.length_cons,
      List.length_nil]
    omega

/-- Where the time of the file can be told, an annotation does not break down. -/
lemma abides_annotate (htime : ∀ info, files.info? p = some info → info.modified.isSome) :
    (e.annotate exhausted p).Abides (told files) (· ≠ .abort) fun _ => True :=
  e.abides_annotate_unbroken exhausted p (fun _ _ => id) fun info hinfo _ _ _ => htime info hinfo

/-- From wherever an annotation has come to, its end can be reached, and it is not far, if the time
of the file can be told. -/
lemma exists_end_of_reaches (htime : ∀ info, files.info? p = some info → info.modified.isSome)
    {plan : Plan Outcome}
    (hreach : Reaches (Store.heard files) (a, []) (e.annotate exhausted p) (b, log) plan) :
    log.length ≤ 8 ∧
      ∃ outcome c log', Runs (Store.heard files) (b, log) plan outcome (c, log') := by
  have hplan := (abides_annotate htime).of_reaches hreach fun _ _ _ _ h => Store.told_of_falters h.1
  have hanswer (s : Store) (r : Request) (_ : True) (hr : r ≠ .abort) :
      ∃ answer s', Store.falters files s r answer s' ∧ True ∧ True := by
    obtain ⟨answer, s', h⟩ := Store.exists_falters files s hr
    exact ⟨answer, s', h, trivial, trivial⟩
  obtain ⟨outcome, c, new, hrest, -⟩ :=
    exists_heard hanswer hplan trivial log
  have hlonger : log.length ≤ (log ++ new).length := hrest.log_prefix.length_le
  exact ⟨hlonger.trans (length_le_of_annotate (hreach.trans hrest)), outcome, c, _, hrest⟩

/-- **Every annotation ends, and the outcome tells what it has done.**  Take a path that is UTF-8,
files whose modification times can be read, and any store.  Decoder, backends and store may answer
or refuse what they will.  After eight requests at most the end is reached, and then

* the path was rejected exactly if it does not lead to a picture worth indexing, and its record is
  gone, unless the store refused to remove it;
* if it was not rejected, then the file was looked at, its header and the recorded time were read,
  in this order, and `Ending` says what was asked after this and what the store is: the record is
  reported as unchanged exactly if the time that was recorded is that of the file, nothing but an
  annotated picture changes the store, and the record of such a picture has the size and time that
  were read before decoding, and as many words as are reported.  Sizes are stored as signed 64-bit
  numbers, and no file is larger;
* the decoder was called once at most, and neither a setting nor the record of another path has
  changed. -/
theorem annotation_outcomes (hp : p.IsText)
    (htime : ∀ info, files.info? p = some info → info.modified.isSome) (exhausted : Bool)
    (s : Store) :
    (∀ s' log plan,
      Reaches (Store.heard files) (s, []) (e.annotate exhausted p) (s', log) plan →
      log.length ≤ 8 ∧
        ∃ outcome s'' log', Runs (Store.heard files) (s', log) plan outcome (s'', log')) ∧
    ∀ outcome s' log,
      Runs (Store.heard files) (s, []) (e.annotate exhausted p) outcome (s', log) →
      (outcome = .rejected ↔ ¬ files.LeadsToPicture e.maxSize p) ∧
      (outcome = .rejected →
        (asked log = [.info p, .remove p] ∨ asked log = [.info p, .sniff p, .remove p]) ∧
        (s'.get p = .ok none ∧ s'.lastModified? p = .ok none ∨
          s' = s ∧ ∃ error, ⟨.remove p, Except.error error⟩ ∈ log)) ∧
      (outcome ≠ .rejected → ∃ info time recorded new, files.info? p = some info ∧
        info.modified = some time ∧ log = [⟨.info p, some info⟩, ⟨.sniff p, files.pictureType p⟩,
          ⟨.recordedTime p, recorded⟩] ++ new ∧
        e.Ending p time info.sizeBytes s outcome (asked new) s' ∧
        (outcome = .skipped .unchanged ↔ recorded = Except.ok (some time)) ∧
        (outcome = .skipped .budgetReached ↔
          recorded ≠ Except.ok (some time) ∧ exhausted = true) ∧
        ((∀ n, outcome ≠ .annotated n) → s' = s) ∧
        (info.sizeBytes < 0x8000000000000000 → ∀ n, outcome = .annotated n → ∃ words : WordSet,
          words.size = n ∧
          s'.get p = .ok (some ⟨p, time, UInt64.ofNat info.sizeBytes, words⟩))) ∧
      (asked log).countP (·.isDecode) ≤ 1 ∧ s'.settings = s.settings ∧
      ∀ q : Path, q.IsText → q ≠ p →
        s'.get q = s.get q ∧ s'.lastModified? q = s.lastModified? q := by
  refine ⟨fun s' log plan hreach => exists_end_of_reaches htime hreach,
    fun outcome s' log hruns => ?_⟩
  have hbeside (h : s.SameBeside p s') : s'.settings = s.settings ∧ ∀ q : Path, q.IsText →
      q ≠ p → s'.get q = s.get q ∧ s'.lastModified? q = s.lastModified? q :=
    ⟨h.1, fun q hq hne => h.2 q fun htext => hne (hq.eq_of_text hp htext)⟩
  obtain ⟨hpicture, rfl, hasked, hstore⟩ | ⟨hpicture, info, time, recorded, new, hinfo,
    hmodified, rfl, hending, hunchanged, hbudget⟩ := annotate_cases hruns
  · refine ⟨iff_of_true rfl hpicture, fun _ => ⟨hasked, ?_⟩, fun h => absurd rfl h, ?_, ?_⟩
    · exact hstore.imp Store.get_of_remove id
    · rcases hasked with hasked | hasked <;> simp [hasked, Request.isDecode]
    · obtain hremove | ⟨rfl, -⟩ := hstore
      · exact hbeside (Store.sameBeside_remove hremove)
      · exact hbeside (Store.sameBeside_refl p _)
  · have hrejected : outcome ≠ .rejected := by
      rintro rfl
      nomatch hending
    have hkept := FileTree.ofMicros?_of_info hinfo hmodified
    refine ⟨iff_of_false hrejected (not_not.mpr hpicture), fun h => absurd h hrejected,
      fun _ => ⟨info, time, recorded, new, hinfo, hmodified, rfl, hending, hunchanged, hbudget,
        hending.store_eq, ?_⟩, ?_, hbeside hending.sameBeside⟩
    · rintro hsize n rfl
      exact hending.get_of_annotated hp hkept hsize
    · exact hending.countP_le

end

/-- A picture in the root directory. -/
def winter : FileTree :=
  ⟨[([[0x61, 0x2E, 0x70, 0x6E, 0x67]],
    .file ⟨PictureType.pngSignature, 16⟩ 1700000000123456789)]⟩

/-- Its path. -/
def winterPath : Path := .ofText "/a.png"

/-- Its modification time. -/
def winterTime : Instant := ⟨1700000000, 123456000⟩

/-- A pipeline that reads texts. -/
def reader : Pipeline := { (default : Pipeline) with backends := ⟨true, false⟩, maxSize := 100 }

/-- The recorded time cannot be looked up, but a word is found and recorded. -/
theorem annotation_outcomes_of_winter :
    winterPath.IsText ∧ winter.info? winterPath = some ⟨16, some winterTime⟩ ∧
      ∃ s' log, Runs (Store.heard winter) (Store.new, [])
        (reader.annotate false winterPath) (.annotated 1) (s', log) ∧
      ∃ words : WordSet, words.size = 1 ∧
        s'.get winterPath = .ok (some ⟨winterPath, winterTime, 16, words⟩) := by
  have hp : winterPath.IsText := by decide +kernel
  have hinfo : winter.info? winterPath = some ⟨16, some winterTime⟩ := by decide +kernel
  have htype : winter.pictureType winterPath = .png := by decide +kernel
  have htime : ∀ info, winter.info? winterPath = some info → info.modified.isSome := by
    rw [hinfo]
    rintro info ⟨⟩
    rfl
  have hruns : ∃ y, Runs (Store.heard winter) (Store.new, []) (reader.annotate false winterPath)
      (.annotated 1) y := by
    refine exists_runs_ask (some ⟨16, some winterTime⟩) (.inl ⟨hinfo.symm, rfl⟩) ?_
    refine exists_runs_ask PictureType.png (.inl ⟨htype.symm, rfl⟩) ?_
    refine exists_runs_ask (Except.error (.general "")) (.inr ⟨⟨_, rfl⟩, rfl⟩) ?_
    refine exists_runs_ask (some ⟨1, 1⟩) (.inl ⟨trivial, rfl⟩) ?_
    refine exists_runs_ask () (.inl rfl) ?_
    refine exists_runs_ask (Except.ok ⟨["Snow"]⟩) (.inl ⟨trivial, rfl⟩) ?_
    refine exists_runs_ask (Except.ok ()) (.inl rfl) ?_
    exact ⟨_, runs_done.mpr ⟨rfl, rfl⟩⟩
  obtain ⟨⟨s', log⟩, hruns⟩ := hruns
  obtain ⟨-, -, hrest, -⟩ :=
    (annotation_outcomes hp htime false Store.new).2 (.annotated 1) s' log hruns
  obtain ⟨info, time, recorded, new, hread, hmodified, -, -, -, -, -, hrecord⟩ := hrest nofun
  rw [hinfo] at hread
  obtain rfl := Option.some.inj hread
  obtain rfl := Option.some.inj hmodified
  exact ⟨hp, hinfo, s', log, hruns, hrecord (by decide) 1 rfl⟩

end Pipeline

end PictureIndex
