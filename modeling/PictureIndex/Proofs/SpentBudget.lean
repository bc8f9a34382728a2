import PictureIndex.Proofs.Isolation
/-!
# A spent budget

The flag that the budget is spent is sampled when an item is started, and the count moves when the
scheduler hears of its end.  What makes the limit exact is that nothing else is started in between.

The flag has one effect on a plan: where the picture would be decoded, the plan gives up
(`Plan.cut`, `process_cut`).  Up to that point a plan has only looked (`Plan.LooksFirst`), so giving
up leaves everything as it was; and a plan that does not come to that point is the same plan
(`carryOut_cut`).
-/

namespace PictureIndex

open Log

/-- Whether a request is one that a spent budget forbids: decoding a picture, asking a backend of
it, writing its record. -/
def Request.isCostly : Request → Bool
  | .decode _ | .recognise _ | .classify _ | .insert _ => true
  | _ => false

/-- Whether a request is to decode a picture. -/
def Request.isDecode : Request → Bool
  | .decode _ => true
  | _ => false

/-- Whether a request only looks at files or the store. -/
def Request.isLook : Request → Bool
  | .kind _ | .list _ | .sniff _ | .info _ | .recordedTime _ | .under _ => true
  | _ => false

/-! ## What a plan does with a spent budget -/

/-- Whether a request may be put, given whether the budget is spent. -/
def Request.Affordable (exhausted : Bool) (r : Request) : Prop :=
  exhausted = true → r.isCostly = false

/-- Whether an outcome may be reported: only a spent budget can be blamed. -/
def Outcome.Fair (exhausted : Bool) (outcome : Outcome) : Prop :=
  outcome = .skipped .budgetReached → exhausted = true

namespace Plan

variable {α : Type} {exhausted : Bool}

/-- Whether a plan spends and blames as said above. -/
abbrev Spends (exhausted : Bool) (p : Plan Outcome) : Prop :=
  p.Within (Request.Affordable exhausted) (Outcome.Fair exhausted)

lemma within_ample (p : Plan α) : p.Within (Request.Affordable false) fun _ => True := by
  induction p with
  | done => trivial
  | ask r next ih => exact ⟨nofun, ih⟩

lemma spends_request {r : Request} (hr : r.isCostly = false) {f : r.Answer → Plan Outcome}
    (hf : ∀ a, (f a).Spends exhausted) : (request r >>= f).Spends exhausted :=
  ⟨fun _ => hr, hf⟩

lemma spends_done {outcome : Outcome} (h : outcome ≠ .skipped .budgetReached) :
    (done outcome).Spends exhausted :=
  fun he => absurd he h

end Plan

namespace Pipeline

open Plan

variable (e : Pipeline) (exhausted : Bool) (p : Path)

lemma spends_describe (b : Bitmap) (time : Instant) (size : Nat) :
    (e.describe p b time size).Spends false := by
  rw [describe]
  split
  · exact spends_done (by rintro ⟨⟩)
  · refine within_bind.mpr ((within_ample _).mono fun found _ => ?_)
    simp only
    split
    · exact spends_done (by rintro ⟨⟩)
    · refine ⟨by rintro ⟨⟩, fun answer => ?_⟩
      cases answer <;> exact spends_done (by rintro ⟨⟩)

lemma spends_develop (time : Instant) (size : Nat) :
    (e.develop p time size).Spends false := by
  refine ⟨nofun, fun decoded => ?_⟩
  cases decoded with
  | none => exact spends_done nofun
  | some b => exact ⟨nofun, fun _ => spends_describe e p b time size⟩

lemma spends_reject : (reject p).Spends exhausted :=
  spends_request rfl fun _ => spends_done nofun

lemma spends_removeRecord : (removeRecord p).Spends exhausted :=
  spends_request rfl fun answer => by cases answer <;> exact spends_done nofun

lemma spends_refresh (time : Instant) (size : Nat) :
    (e.refresh exhausted p time size).Spends exhausted := by
  refine spends_request rfl fun recorded => ?_
  split
  · exact spends_done nofun
  · cases exhausted with
    | true => exact fun _ => rfl
    | false => exact spends_develop e p time size

lemma spends_annotate : (e.annotate exhausted p).Spends exhausted := by
  refine spends_request rfl fun info => ?_
  cases info with
  | none => exact spends_reject _ p
  | some info =>
    simp only
    split
    · exact spends_reject _ p
    · refine spends_request rfl fun type => ?_
      split
      · exact spends_reject _ p
      · cases info.modified with
        | none => exact within_abort.mpr fun _ => rfl
        | some time => exact spends_refresh e exhausted p time _

lemma spends_examineMissing : (examineMissing p).Spends exhausted := by
  rw [examineMissing]
  split
  · exact spends_removeRecord exhausted p
  · refine spends_request rfl fun answer => ?_
    cases answer <;> exact spends_done (by rintro ⟨⟩)

lemma spends_examine : (e.examine exhausted p).Spends exhausted := by
  refine spends_request rfl fun kind => ?_
  rcases kind with _ | (_ | _ | _ | _)
  · exact spends_examineMissing _ p
  · exact spends_done nofun
  · exact spends_request rfl fun entries => spends_done nofun
  · refine spends_request rfl fun type => ?_
    split
    · exact spends_done nofun
    · exact spends_annotate e exhausted p
  · exact spends_done nofun

/-- With a spent budget no item asks for anything costly, and only then the budget is blamed. -/
theorem spends_process (item : Item) : (e.process exhausted item).Spends exhausted := by
  rw [process]
  split
  · exact spends_examine e exhausted item.path
  · refine spends_request rfl fun kind => ?_
    cases kind with
    | none => exact spends_removeRecord exhausted item.path
    | some kind => exact spends_done nofun

end Pipeline

/-! ## Giving up instead of decoding -/

namespace Plan

variable {α : Type} {exhausted : Bool}

/-- The plan that gives up where a picture is to be decoded. -/
def cut : Plan Outcome → Plan Outcome
  | done outcome => done outcome
  | ask r next =>
    if r.isDecode then done (.skipped .budgetReached) else ask r fun a => (next a).cut

/-- Whether a plan never decodes. -/
abbrev NeverDecodes (p : Plan α) : Prop :=
  p.Within (fun r => r.isDecode = false) fun _ => True

/-- Whether a plan that comes to decode has only looked before. -/
def LooksFirst : Plan α → Prop
  | done _ => True
  | ask r next => r.isDecode = true ∨ (r.isLook = true ∧ ∀ a, LooksFirst (next a)) ∨
      (ask r next).NeverDecodes

lemma cut_eq_self {p : Plan Outcome} (h : p.NeverDecodes) : p.cut = p := by
  induction p with
  | done => rfl
  | ask r next ih =>
    rw [cut, if_neg (by simp [h.1])]
    exact congrArg (ask r) (funext fun a => ih a (h.2 a))

lemma LooksFirst.of_never {p : Plan α} (h : p.NeverDecodes) : p.LooksFirst := by
  cases p with
  | done => trivial
  | ask r next => exact .inr (.inr h)

lemma looksFirst_request {r : Request} (hr : r.isLook = true) {f : r.Answer → Plan α}
    (hf : ∀ a, (f a).LooksFirst) : (request r >>= f).LooksFirst :=
  .inr (.inl ⟨hr, hf⟩)

lemma cut_ask {r : Request} (hr : r.isDecode = false) (next : r.Answer → Plan Outcome) :
    (ask r next).cut = ask r fun a => (next a).cut := by
  rw [cut, if_neg (by simp [hr])]

/-- Plans are cut off alike after the same request if they go on alike. -/
lemma eq_cut_request {r : Request} (hr : r.isDecode = false) {f g : r.Answer → Plan Outcome}
    (h : ∀ a, f a = (g a).cut) : (request r >>= f) = (request r >>= g).cut := by
  obtain rfl : f = fun a => (g a).cut := funext h
  exact (cut_ask hr g).symm

end Plan

namespace Pipeline

open Plan

variable (e : Pipeline) (p : Path)

lemma never_reject : (reject p).NeverDecodes := within_reject p rfl trivial

lemma never_abort : (abort : Plan Outcome).NeverDecodes := within_abort.mpr rfl

lemma never_examineMissing : (examineMissing p).NeverDecodes :=
  within_examineMissing p rfl rfl trivial trivial fun _ => trivial

lemma never_removeStale : (removeStale p).NeverDecodes :=
  within_removeStale p rfl rfl trivial trivial trivial

lemma looksFirst_annotate (exhausted : Bool) : (e.annotate exhausted p).LooksFirst := by
  refine looksFirst_request rfl fun info => ?_
  cases info with
  | none => exact .of_never (never_reject p)
  | some info =>
    simp only
    split
    · exact .of_never (never_reject p)
    · refine looksFirst_request rfl fun type => ?_
      split
      · exact .of_never (never_reject p)
      · cases info.modified with
        | none => exact .of_never never_abort
        | some time =>
          refine looksFirst_request rfl fun recorded => ?_
          split
          · trivial
          · cases exhausted with
            | true => trivial
            | false => exact .inl rfl

/-- An item that comes to decode has only looked before. -/
lemma looksFirst_process (exhausted : Bool) (item : Item) :
    (e.process exhausted item).LooksFirst := by
  rw [process]
  split
  · refine looksFirst_request rfl fun kind => ?_
    rcases kind with _ | (_ | _ | _ | _)
    · exact .of_never (never_examineMissing _)
    · trivial
    · exact looksFirst_request rfl fun _ => trivial
    · refine looksFirst_request rfl fun type => ?_
      split
      · trivial
      · exact looksFirst_annotate e _ exhausted
    · trivial
  · exact .of_never (never_removeStale _)

lemma annotate_cut : e.annotate true p = (e.annotate false p).cut := by
  refine eq_cut_request rfl fun info => ?_
  cases info with
  | none => exact (cut_eq_self (never_reject p)).symm
  | some info =>
    simp only
    split
    · exact (cut_eq_self (never_reject p)).symm
    · refine eq_cut_request rfl fun type => ?_
      split
      · exact (cut_eq_self (never_reject p)).symm
      · cases info.modified with
        | none => exact (cut_eq_self never_abort).symm
        | some time =>
          refine eq_cut_request rfl fun recorded => ?_
          split <;> rfl

/-- **A spent budget cuts the plan of an item off before decoding**, and has no other effect. -/
theorem process_cut (item : Item) : e.process true item = (e.process false item).cut := by
  rw [process, process]
  split
  · refine eq_cut_request rfl fun kind => ?_
    rcases kind with _ | (_ | _ | _ | _)
    · exact (cut_eq_self (never_examineMissing _)).symm
    · rfl
    · exact eq_cut_request rfl fun _ => rfl
    · refine eq_cut_request rfl fun type => ?_
      split
      · rfl
      · exact annotate_cut e item.path
    · rfl
  · exact (cut_eq_self (never_removeStale _)).symm

end Pipeline

namespace Simulation

open Plan

namespace World

variable {α : Type}

/-- The requests that a plan puts when it is carried out. -/
def puts (w : World) : Plan α → List Request
  | .done _ => []
  | .ask r next => r ::
    match w.reply r with
    | (.answer a delay, w') => { w' with now := w'.now + delay }.puts (next a)
    | (.never, _) => []
    | (.lost, _) => []

lemma puts_of_within {allows : Request → Prop} {reports : α → Prop} {p : Plan α}
    (h : p.Within allows reports) (w : World) : ∀ r ∈ w.puts p, allows r := by
  induction p generalizing w with
  | done => simp [puts]
  | ask r next ih =>
    rw [puts]
    refine List.forall_mem_cons.mpr ⟨h.1, ?_⟩
    rcases w.reply r with ⟨⟨a, delay⟩ | _ | _, w'⟩
    · exact ih a (h.2 a) _
    · simp
    · simp

/-- A request that looks is answered at once and changes nothing. -/
lemma reply_look (w : World) {r : Request} (hr : r.isLook = true) :
    ∃ a, w.reply r = (.answer a 0, w) := by
  cases r <;> simp [Request.isLook] at hr <;> exact ⟨_, rfl⟩

lemma carryOut_look (w : World) (armed : Bool) {r : Request} (hr : r.isLook = true) :
    ∃ a, ∀ next : r.Answer → Plan α, w.carryOut armed (.ask r next) = w.carryOut armed (next a) ∧
      w.puts (.ask r next) = r :: w.puts (next a) := by
  obtain ⟨a, hreply⟩ := w.reply_look hr
  refine ⟨a, fun next => ⟨?_, ?_⟩⟩
  · rw [carryOut, hreply]
    cases r <;> simp [Request.isLook] at hr <;> simp
  · rw [puts, hreply]
    rfl

/-- **Giving up instead of decoding** leaves everything as it was, and a plan that does not come
to decode is not affected. -/
theorem carryOut_cut {p : Plan Outcome} (h : p.LooksFirst) (w : World) (armed : Bool) :
    ((∀ r ∈ w.puts p, r.isDecode = false) → w.carryOut armed p.cut = w.carryOut armed p) ∧
      ((∃ r ∈ w.puts p, r.isDecode = true) →
        w.carryOut armed p.cut = (some (.skipped .budgetReached), armed, w)) := by
  induction p with
  | done outcome => exact ⟨fun _ => rfl, by simp [puts]⟩
  | ask r next ih =>
    rcases h with hdecode | ⟨hlook, hnext⟩ | hnever
    · -- the picture is to be decoded now
      have hcut : (ask r next).cut = done (.skipped .budgetReached) := by rw [cut, if_pos hdecode]
      refine ⟨fun hnone => ?_, fun _ => by rw [hcut, carryOut]⟩
      have hfirst := hnone r (by rw [puts]; exact List.mem_cons_self)
      simp [hdecode] at hfirst
    · -- a look, after which the world is the same
      have hr : r.isDecode = false := by
        cases r <;> first | rfl | simp [Request.isLook] at hlook
      obtain ⟨a, ha⟩ := w.carryOut_look armed (α := Outcome) hlook
      obtain ⟨hsame, hgiven⟩ := ih a (hnext a)
      rw [cut_ask hr, (ha _).1, (ha _).1, (ha _).2]
      refine ⟨fun hnone => ?_, fun hsome => ?_⟩
      · exact hsame fun r' hr' => hnone r' (List.mem_cons_of_mem r hr')
      · obtain ⟨r', hmem, hdecode⟩ := hsome
        rcases List.mem_cons.mp hmem with rfl | hmem
        · simp [hr] at hdecode
        · exact hgiven ⟨r', hmem, hdecode⟩
    · -- nothing will be decoded, though the store may be changed
      refine ⟨fun _ => by rw [cut_eq_self hnever], fun ⟨r', hmem, hdecode⟩ => ?_⟩
      have hno := puts_of_within hnever w r' hmem
      simp [hdecode] at hno

end World

end Simulation

end PictureIndex
