import Mathlib.Data.Set.Basic
import PictureIndex.Annotation
/-!
# Plans carried out

A plan is carried out by somebody who answers its requests.  All that matters of the one who
answers is a state: `Surroundings` tells which answers may come of a request in which state, and
which state they lead to.  `Plan.Reaches` says how far a plan may get, and `Plan.Runs` how it may
end.

Plans are put together by `>>=`, and so are their runs (`runs_bind`).  A plan that puts only
certain requests and ends only in certain ways (`Plan.Within`) does so from every point that it
reaches; and so does one that does it as long as it is answered in certain ways (`Plan.Abides`).
For the plans of which those of items are made, it is said here once when they do.
-/

namespace PictureIndex

variable {σ : Type*}

/-- Which answers may come of a request in some state, and which state they lead to. -/
abbrev Surroundings (σ : Type*) := σ → (r : Request) → r.Answer → σ → Prop

namespace Plan

variable {α β : Type} {S : Surroundings σ} {s s' s'' : σ}

/-- How far a plan may get: what may be left of it, and in which state. -/
inductive Reaches (S : Surroundings σ) (s : σ) (p : Plan α) : σ → Plan α → Prop
  | refl : Reaches S s p s p
  | step {s' s'' : σ} {r : Request} {next : r.Answer → Plan α} {a : r.Answer}
      (hreach : Reaches S s p s' (ask r next)) (hanswer : S s' r a s'') :
      Reaches S s p s'' (next a)

/-- How a plan may end. -/
def Runs (S : Surroundings σ) (s : σ) (p : Plan α) (b : α) (s' : σ) : Prop :=
  Reaches S s p s' (done b)

lemma Reaches.head {r : Request} {next : r.Answer → Plan α} {a : r.Answer} {q : Plan α}
    (hanswer : S s r a s') (hreach : Reaches S s' (next a) s'' q) :
    Reaches S s (ask r next) s'' q := by
  induction hreach with
  | refl => exact .step .refl hanswer
  | step _ hanswer' ih => exact .step ih hanswer'

/-- A plan that has done something has got an answer to its first request. -/
lemma Reaches.cases_head {p q : Plan α} (h : Reaches S s p s'' q) :
    (s'' = s ∧ q = p) ∨ ∃ r next a s', p = ask r next ∧ S s r a s' ∧
      Reaches S s' (next a) s'' q := by
  induction h with
  | refl => exact .inl ⟨rfl, rfl⟩
  | @step t t' r next a _ hanswer ih =>
    right
    rcases ih with ⟨rfl, hp⟩ | ⟨r', next', a', u, hp, hfirst, hrest⟩
    · exact ⟨r, next, a, t', hp.symm, hanswer, .refl⟩
    · exact ⟨r', next', a', u, hp, hfirst, .step hrest hanswer⟩

@[simp] lemma reaches_done {a : α} {q : Plan α} :
    Reaches S s (done a) s' q ↔ s' = s ∧ q = done a := by
  constructor
  · intro h
    rcases h.cases_head with h | ⟨r, next, b, t, hp, -⟩
    · exact h
    · exact nomatch hp
  · rintro ⟨rfl, rfl⟩
    exact .refl

@[simp] lemma runs_done {a b : α} : Runs S s (done a) b s' ↔ b = a ∧ s' = s := by
  rw [Runs, reaches_done, done.injEq]
  exact and_comm

lemma reaches_ask {r : Request} {next : r.Answer → Plan α} {q : Plan α} :
    Reaches S s (ask r next) s'' q ↔ (s'' = s ∧ q = ask r next) ∨
      ∃ a s', S s r a s' ∧ Reaches S s' (next a) s'' q := by
  constructor
  · intro h
    rcases h.cases_head with hsame | ⟨r', next', a, t, hp, hanswer, hrest⟩
    · exact .inl hsame
    · obtain ⟨rfl, hnext⟩ := Plan.ask.inj hp
      obtain rfl := eq_of_heq hnext
      exact .inr ⟨a, t, hanswer, hrest⟩
  · rintro (⟨rfl, rfl⟩ | ⟨a, t, hanswer, hrest⟩)
    · exact .refl
    · exact Reaches.head hanswer hrest

lemma runs_ask {r : Request} {next : r.Answer → Plan α} {b : α} :
    Runs S s (ask r next) b s'' ↔ ∃ a s', S s r a s' ∧ Runs S s' (next a) b s'' := by
  rw [Runs, reaches_ask]
  exact or_iff_right fun h => nomatch h.2

/-- A task that goes down does not come to an end. -/
lemma not_runs_abort {b : α} : ¬ Runs S s abort b s' := by
  intro h
  obtain ⟨a, -⟩ := runs_ask.mp h
  exact a.elim

/-- One plan after another runs if both do. -/
lemma runs_bind {p : Plan β} {f : β → Plan α} {b : α} :
    Runs S s (p >>= f) b s'' ↔ ∃ a s', Runs S s p a s' ∧ Runs S s' (f a) b s'' := by
  induction p generalizing s with
  | done a =>
    constructor
    · intro h
      exact ⟨a, s, runs_done.mpr ⟨rfl, rfl⟩, h⟩
    · rintro ⟨a', t, hfirst, hrest⟩
      obtain ⟨rfl, rfl⟩ := runs_done.mp hfirst
      exact hrest
  | ask r next ih =>
    rw [ask_bind, runs_ask]
    constructor
    · rintro ⟨a, t, hanswer, hrest⟩
      obtain ⟨c, u, hfirst, hlast⟩ := (ih a).mp hrest
      exact ⟨c, u, runs_ask.mpr ⟨a, t, hanswer, hfirst⟩, hlast⟩
    · rintro ⟨c, u, hfirst, hlast⟩
      obtain ⟨a, t, hanswer, hrest⟩ := runs_ask.mp hfirst
      exact ⟨a, t, hanswer, (ih a).mpr ⟨c, u, hrest, hlast⟩⟩

/-! ## What a plan asks and reports -/

variable {allows : Request → Prop} {reports : α → Prop}

/-- Whether a plan puts only certain requests and ends only in certain ways. -/
def Within (allows : Request → Prop) (reports : α → Prop) : Plan α → Prop
  | done a => reports a
  | ask r next => allows r ∧ ∀ a, Within allows reports (next a)

@[simp] lemma within_done {a : α} : Within allows reports (done a) ↔ reports a := Iff.rfl

@[simp] lemma within_ask {r : Request} {next : r.Answer → Plan α} :
    Within allows reports (ask r next) ↔ allows r ∧ ∀ a, Within allows reports (next a) :=
  Iff.rfl

lemma within_request {r : Request} {f : r.Answer → Plan α} :
    Within allows reports (request r >>= f) ↔ allows r ∧ ∀ a, Within allows reports (f a) :=
  Iff.rfl

@[simp] lemma within_abort : Within allows reports (abort : Plan α) ↔ allows .abort :=
  and_iff_left fun a => a.elim

lemma Within.of_reaches {p q : Plan α} (h : Within allows reports p)
    (hreach : Reaches S s p s' q) : Within allows reports q := by
  induction hreach with
  | refl => exact h
  | @step _ _ _ _ a _ _ ih => exact ih.2 a

/-- What is kept by every request that a plan may put is kept throughout. -/
lemma Reaches.keeps {I : σ → Prop}
    (hstep : ∀ s r a s', allows r → I s → S s r a s' → I s') {p q : Plan α}
    (hreach : Reaches S s p s' q) (hwithin : Within allows reports p) (hs : I s) : I s' := by
  induction hreach with
  | refl => exact hs
  | step hreach hanswer ih => exact hstep _ _ _ _ (hwithin.of_reaches hreach).1 ih hanswer

lemma Within.mono {reports' : α → Prop} (himp : ∀ a, reports a → reports' a) {p : Plan α}
    (h : Within allows reports p) : Within allows reports' p := by
  induction p with
  | done a => exact himp a h
  | ask r next ih => exact ⟨h.1, fun a => ih a (h.2 a)⟩

lemma within_bind {p : Plan β} {f : β → Plan α} :
    Within allows reports (p >>= f) ↔
      Within allows (fun b => Within allows reports (f b)) p := by
  induction p with
  | done b => rfl
  | ask r next ih =>
    rw [ask_bind, within_ask, within_ask]
    exact and_congr_right fun _ => forall_congr' ih

/-! ## What a plan does where the answers are known -/

variable {may : (r : Request) → r.Answer → Prop}

/-- Whether a plan puts only certain requests and ends only in certain ways, as long as it is
answered as it may be. -/
def Abides (may : (r : Request) → r.Answer → Prop) (allows : Request → Prop)
    (reports : α → Prop) : Plan α → Prop
  | done a => reports a
  | ask r next => allows r ∧ ∀ a, may r a → Abides may allows reports (next a)

lemma Within.abides {p : Plan α} (h : p.Within allows reports) : p.Abides may allows reports := by
  induction p with
  | done a => exact h
  | ask r next ih => exact ⟨h.1, fun a _ => ih a (h.2 a)⟩

@[simp] lemma abides_abort : Abides may allows reports (abort : Plan α) ↔ allows .abort :=
  and_iff_left fun a => a.elim

lemma abides_request {r : Request} {f : r.Answer → Plan α} (hr : allows r)
    (hf : ∀ a, may r a → (f a).Abides may allows reports) :
    (request r >>= f).Abides may allows reports :=
  ⟨hr, hf⟩

lemma Abides.mono {reports' : α → Prop} (himp : ∀ a, reports a → reports' a) {p : Plan α}
    (h : p.Abides may allows reports) : p.Abides may allows reports' := by
  induction p with
  | done a => exact himp a h
  | ask r next ih => exact ⟨h.1, fun a ha => ih a (h.2 a ha)⟩

lemma Abides.allowing {allows' : Request → Prop} (himp : ∀ r, allows r → allows' r) {p : Plan α}
    (h : p.Abides may allows reports) : p.Abides may allows' reports := by
  induction p with
  | done a => exact h
  | ask r next ih => exact ⟨himp r h.1, fun a ha => ih a (h.2 a ha)⟩

lemma abides_bind {p : Plan β} {f : β → Plan α} :
    (p >>= f).Abides may allows reports ↔
      p.Abides may allows fun b => (f b).Abides may allows reports := by
  induction p with
  | done b => rfl
  | ask r next ih =>
    rw [ask_bind, Abides, Abides]
    exact and_congr_right fun _ => forall_congr' fun a => imp_congr_right fun _ => ih a

/-- Where surroundings answer only as they may, a plan does what it does for such answers. -/
lemma Abides.of_reaches {p q : Plan α} (h : p.Abides may allows reports)
    (hreach : Reaches S s p s' q) (hS : ∀ s r a s', S s r a s' → may r a) :
    q.Abides may allows reports := by
  induction hreach with
  | refl => exact h
  | step _ hanswer ih => exact ih.2 _ (hS _ _ _ _ hanswer)

end Plan

/-! ## The plans of items, request by request -/

namespace Pipeline

open Plan

variable (e : Pipeline) (exhausted : Bool) (p : Path)

lemma examine_eq : e.examine exhausted p = .ask (.kind p) fun
    | none => examineMissing p
    | some .link => .done (.skipped .symlink)
    | some .directory => .ask (.list p) fun paths => .done (.expanded paths)
    | some .other => .done (.skipped .notImage)
    | some .file => .ask (.sniff p) fun (type : PictureType) =>
      if type = .notImage then .done (.skipped .notImage) else e.annotate exhausted p :=
  rfl

lemma annotate_eq : e.annotate exhausted p = .ask (.info p) fun
    | none => reject p
    | some info =>
      if info.sizeBytes = 0 || e.maxSize < info.sizeBytes then reject p
      else .ask (.sniff p) fun (type : PictureType) =>
        if !type.isIndexable then reject p
        else match info.modified with
          | none => Plan.abort
          | some time => e.refresh exhausted p time info.sizeBytes :=
  rfl

/-! ### Plans that are parts of others -/

section

variable {allows : Request → Prop} {reports : Outcome → Prop}

lemma within_reject (hremove : allows (.remove p)) (hrejected : reports .rejected) :
    (reject p).Within allows reports :=
  within_request.mpr ⟨hremove, fun _ => hrejected⟩

lemma within_removeRecord (hremove : allows (.remove p)) (hremoved : reports .removed)
    (hrefused : reports (.failed .store)) : (removeRecord p).Within allows reports := by
  refine within_request.mpr ⟨hremove, fun answer => ?_⟩
  cases answer with
  | ok => exact hremoved
  | error => exact hrefused

lemma within_examineMissing (hremove : allows (.remove p)) (hunder : allows (.under p))
    (hremoved : reports .removed) (hrefused : reports (.failed .store))
    (hstale : ∀ paths, reports (.staleDescendants paths)) :
    (examineMissing p).Within allows reports := by
  rw [examineMissing]
  split
  · exact within_removeRecord p hremove hremoved hrefused
  · refine within_request.mpr ⟨hunder, fun answer => ?_⟩
    cases answer with
    | ok paths => exact hstale _
    | error => exact hstale _

lemma within_removeStale (hkind : allows (.kind p)) (hremove : allows (.remove p))
    (hremoved : reports .removed) (hrefused : reports (.failed .store))
    (hpresent : reports (.skipped .stillPresent)) : (removeStale p).Within allows reports := by
  refine within_request.mpr ⟨hkind, fun kind => ?_⟩
  cases kind with
  | none => exact within_removeRecord p hremove hremoved hrefused
  | some kind => exact hpresent

variable {may : (r : Request) → r.Answer → Prop}

/-- Whether it may be answered that a picture worth indexing stands at a path, with this size and
time. -/
structure Finds (may : (r : Request) → r.Answer → Prop) (p : Path) (info : FileInfo) : Prop where
  /-- Size and time are told. -/
  told : may (.info p) (some info)
  /-- The file is not empty. -/
  size_pos : 1 ≤ info.sizeBytes
  /-- The file is not too large. -/
  size_le : info.sizeBytes ≤ e.maxSize
  /-- It has a type that is told. -/
  type : ∃ type, may (.sniff p) type ∧ type.isIndexable = true

/-- Annotating abides by what comes of a picture worth indexing. -/
lemma abides_annotate_of (hinfo : allows (.info p)) (hsniff : allows (.sniff p))
    (hremove : allows (.remove p)) (hrejected : reports .rejected)
    (habort : ∀ info, e.Finds may p info → info.modified = none → allows .abort)
    (hrefresh : ∀ info time, e.Finds may p info → info.modified = some time →
      (e.refresh exhausted p time info.sizeBytes).Abides may allows reports) :
    (e.annotate exhausted p).Abides may allows reports := by
  have hreject : (reject p).Abides may allows reports := (within_reject p hremove hrejected).abides
  refine abides_request hinfo fun info htold => ?_
  cases info with
  | none => exact hreject
  | some info =>
    simp only
    split
    · exact hreject
    rename_i hsize
    simp only [Bool.or_eq_true, decide_eq_true_eq] at hsize
    refine abides_request hsniff fun type htype => ?_
    split
    · exact hreject
    rename_i hfit
    have hfinds : e.Finds may p info :=
      ⟨htold, by omega, by omega, type, htype, by simpa using hfit⟩
    cases hmodified : info.modified with
    | none => exact abides_abort.mpr (habort info hfinds hmodified)
    | some time => exact hrefresh info time hfinds hmodified

end

end Pipeline

end PictureIndex
