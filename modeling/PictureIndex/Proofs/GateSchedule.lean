import Mathlib.Algebra.Group.Nat.Even
import Mathlib.Data.List.Basic
import PictureIndex.Gate
/-!
# The schedule of the readiness gate

The delays before the polls are 1, 2, 4, ... seconds, so the `k`-th poll is made after `2 ^ k - 1`
seconds, as long as a delay can be counted in 64 bits; later delays are all the longest one
(`pollTime`, `pollTime_eq`).  The gate arms at the first poll that finds every backend in use
ready, and gives up at the first poll after the ceiling if there is none.

`pollOn_eq` tells how a wait goes on from its `k`-th poll: all its polls up to some last one come
to nothing, and the whole outcome is read off the number of the last one (`scheduled`).  The
induction is on the number of polls that are left until the ceiling.

* `wait_is_scheduled`: when a wait ends and how, and what it has done until then.
-/

namespace PictureIndex.Gate

/-! ## Delays -/

lemma delayAfter_eq (n : Nat) : delayAfter n = min (2 ^ n) longestDelay := by
  rw [delayAfter, Nat.one_shiftLeft]

lemma delayAfter_of_lt {n : Nat} (h : n < 64) : delayAfter n = 2 ^ n := by
  rw [delayAfter_eq]
  refine Nat.min_eq_left ?_
  have hle : 2 ^ n ≤ 2 ^ 63 := Nat.pow_le_pow_right (by decide) (by omega)
  exact Nat.le_trans hle (by decide)

lemma delayAfter_of_le {n : Nat} (h : 64 ≤ n) : delayAfter n = longestDelay := by
  rw [delayAfter_eq]
  refine Nat.min_eq_right ?_
  have hle : 2 ^ 64 ≤ 2 ^ n := Nat.pow_le_pow_right (by decide) h
  exact Nat.le_trans (by decide) hle

/-- Delays grow until they are the longest. -/
lemma delayAfter_lt_succ {n : Nat} (h : n < 64) : delayAfter n < delayAfter (n + 1) := by
  rw [delayAfter_of_lt h]
  by_cases hlast : n + 1 < 64
  · rw [delayAfter_of_lt hlast]
    exact Nat.pow_lt_pow_succ (by decide)
  · rw [delayAfter_of_le (Nat.le_of_not_lt hlast)]
    obtain rfl : n = 63 := by omega
    decide

/-- When the `k`-th poll is made if no sleep lasts longer than asked, in seconds. -/
def pollTime : Nat → Nat
  | 0 => 0
  | k + 1 => pollTime k + delayAfter k

/-- As long as the delays double, the times are one less than powers of two. -/
lemma pollTime_eq {k : Nat} (h : k ≤ 64) : pollTime k = 2 ^ k - 1 := by
  induction k with
  | zero => rfl
  | succ k ih =>
    have hpositive : 0 < 2 ^ k := Nat.pow_pos (by decide)
    rw [pollTime, ih (by omega), delayAfter_of_lt (by omega), Nat.pow_succ]
    omega

/-- A sleep of thirty years is long enough for thirty polls. -/
lemma ofSecs_delayAfter {n : Nat} (h : n < 30) : Wait.ofSecs (delayAfter n) = delayAfter n := by
  rw [delayAfter_of_lt (by omega)]
  refine Nat.min_eq_left ?_
  have hle : 2 ^ n ≤ 2 ^ 29 := Nat.pow_le_pow_right (by decide) (by omega)
  exact Nat.le_trans hle (by decide)

/-! ## Polls -/

section

variable {b : Backends} {c k n : Nat} {sleep : Nat → Nat} {ready ready' : Nat → BackendKind → Bool}

/-- Whether the `k`-th poll finds every backend in use ready. -/
def ReadyAt (b : Backends) (ready : Nat → BackendKind → Bool) (k : Nat) : Prop :=
  ∀ kind ∈ b.kinds, ready (pollTime k) kind = true

instance : Decidable (ReadyAt b ready k) := inferInstanceAs (Decidable (∀ kind ∈ _, _))

lemma notReady_isEmpty : (b.notReady (ready (pollTime k))).isEmpty = true ↔ ReadyAt b ready k := by
  simp [Backends.notReady, ReadyAt]

/-- A gate between its `k`-th poll and the next one. -/
def between (b : Backends) (c k : Nat) : Gate := ⟨b, c, k, delayAfter k⟩

/-- What the `k`-th poll leads to if it is the last one. -/
def verdict (b : Backends) (ready : Nat → BackendKind → Bool) (k : Nat) : GateState × Poll :=
  if ReadyAt b ready k then (.armed, .ready)
  else (.permanentlyFailed, .failed (b.notReady (ready (pollTime k))))

/-- The polls behind the `k`-th one and before the `n`-th one, when each of them decides on a
delay. -/
def retries (k n : Nat) : List (Nat × Poll) :=
  (List.range' (k + 1) (n - k - 1)).map fun j => (pollTime j, .retryAfter (delayAfter j))

/-- How a wait ends with its `n`-th poll, told from behind the `k`-th one. -/
def scheduled (b : Backends) (ready : Nat → BackendKind → Bool) (k n : Nat) : Outcome where
  state := (verdict b ready n).1
  elapsed := pollTime n
  log := retries k n ++ [(pollTime n, (verdict b ready n).2)]
  notices := if b.contentClassifier then List.range' (k + 1) (n - k - 1) else []

/-- A last poll makes an end at once. -/
lemma scheduled_succ : scheduled b ready k (k + 1) = ⟨(verdict b ready (k + 1)).1, pollTime (k + 1),
    [(pollTime (k + 1), (verdict b ready (k + 1)).2)], []⟩ := by
  simp [scheduled, retries]

/-- One more poll before the last one is one more delay and one more notice. -/
lemma scheduled_of_lt (h : k + 1 < n) : scheduled b ready k n =
    { scheduled b ready (k + 1) n with
      log := (pollTime (k + 1), .retryAfter (delayAfter (k + 1))) ::
        (scheduled b ready (k + 1) n).log
      notices := (if b.contentClassifier then [k + 1] else []) ++
        (scheduled b ready (k + 1) n).notices } := by
  have hrange : List.range' (k + 1) (n - k - 1) =
      (k + 1) :: List.range' (k + 1 + 1) (n - (k + 1) - 1) := by
    rw [show n - k - 1 = (n - (k + 1) - 1) + 1 by omega, List.range'_succ]
  simp only [scheduled, retries, hrange]
  split <;> simp

/-- A poll between the `k`-th and the next one. -/
lemma poll_between (b : Backends) (c k : Nat) (now : BackendKind → Bool) :
    (between b c k).poll now =
    if (b.notReady now).isEmpty then ({ between b c k with attempts := k + 1 }, .ready)
    else if c < k + 1 then ({ between b c k with attempts := k + 1 }, .failed (b.notReady now))
    else (between b c (k + 1), .retryAfter (delayAfter (k + 1))) :=
  rfl

section

variable {g g' : Gate} {t now : Nat} (hnow : t + sleep g.nextDelay = now)

include hnow

/-- A poll that finds all backends ready ends the wait. -/
lemma pollOn_ready (h : g.poll (ready now) = (g', .ready)) :
    pollOn sleep ready g t = ⟨.armed, now, [(now, .ready)], []⟩ := by
  subst hnow
  rw [pollOn]
  split <;> simp_all

/-- A poll that gives up ends the wait. -/
lemma pollOn_failed {missing : List BackendKind} (h : g.poll (ready now) = (g', .failed missing)) :
    pollOn sleep ready g t = ⟨.permanentlyFailed, now, [(now, .failed missing)], []⟩ := by
  subst hnow
  rw [pollOn]
  split <;> simp_all

/-- After any other poll the wait goes on. -/
lemma pollOn_retryAfter {d : Nat} (h : g.poll (ready now) = (g', .retryAfter d)) :
    pollOn sleep ready g t = { pollOn sleep ready g' now with
      log := (now, .retryAfter d) :: (pollOn sleep ready g' now).log
      notices := (g'.notified? (.retryAfter d)).toList ++
        (pollOn sleep ready g' now).notices } := by
  subst hnow
  rw [pollOn]
  split
  · simp_all
  · simp_all
  · rename_i heq
    obtain ⟨rfl, hd⟩ := Prod.mk.inj (h.symm.trans heq)
    obtain rfl := Poll.retryAfter.inj hd
    rfl

end

/-- What comes of sleeping once more and polling. -/
lemma pollOn_between (hsleep : sleep (delayAfter k) = delayAfter k) :
    pollOn sleep ready (between b c k) (pollTime k) =
      if ReadyAt b ready (k + 1) ∨ c < k + 1 then scheduled b ready k (k + 1)
      else
        let rest := pollOn sleep ready (between b c (k + 1)) (pollTime (k + 1))
        { rest with
          log := (pollTime (k + 1), .retryAfter (delayAfter (k + 1))) :: rest.log
          notices := (if b.contentClassifier then [k + 1] else []) ++ rest.notices } := by
  have hnow : pollTime k + sleep (between b c k).nextDelay = pollTime (k + 1) :=
    congrArg (pollTime k + ·) hsleep
  have hpoll := poll_between b c k (ready (pollTime (k + 1)))
  by_cases hready : ReadyAt b ready (k + 1)
  · rw [if_pos (notReady_isEmpty.mpr hready)] at hpoll
    rw [pollOn_ready hnow hpoll, if_pos (.inl hready), scheduled_succ, verdict, if_pos hready]
  rw [if_neg (mt notReady_isEmpty.mp hready)] at hpoll
  by_cases hceiling : c < k + 1
  · rw [if_pos hceiling] at hpoll
    rw [pollOn_failed hnow hpoll, if_pos (.inr hceiling), scheduled_succ, verdict, if_neg hready]
  · rw [if_neg hceiling] at hpoll
    rw [pollOn_retryAfter hnow hpoll, if_neg (by simp [hready, hceiling])]
    have hnotice : ((between b c (k + 1)).notified? (.retryAfter (delayAfter (k + 1)))).toList =
        if b.contentClassifier then [k + 1] else [] := by
      by_cases hlistens : b.contentClassifier = true <;> simp [notified?, between, hlistens]
    rw [hnotice]

/-- Whether the `n`-th poll is the last one of a wait that has come to its `k`-th poll: every
backend in use is ready or the ceiling is passed, for the first time since. -/
structure IsLast (b : Backends) (c : Nat) (ready : Nat → BackendKind → Bool) (k n : Nat) :
    Prop where
  /-- It is yet to come. -/
  lt : k < n
  /-- There is at most one poll after the ceiling. -/
  le : n ≤ c + 1
  /-- Something was missing at the polls between. -/
  missing : ∀ j, k < j → j < n → ¬ ReadyAt b ready j
  /-- There is a reason to poll no more. -/
  ends : ReadyAt b ready n ∨ n = c + 1

/-- There is only one last poll. -/
lemma IsLast.unique {n' : Nat} (h : IsLast b c ready k n) (h' : IsLast b c ready k n') :
    n = n' := by
  rcases Nat.lt_trichotomy n n' with hlt | heq | hlt
  · rcases h.ends with hready | hceiling
    · exact absurd hready (h'.missing n h.lt hlt)
    · have := h'.le
      omega
  · exact heq
  · rcases h'.ends with hready | hceiling
    · exact absurd hready (h.missing n' h'.lt hlt)
    · have := h.le
      omega

/-- **How a wait goes on after its `k`-th poll**: it comes to its last poll. -/
lemma pollOn_eq (b : Backends) (ready : Nat → BackendKind → Bool)
    (hsleep : ∀ j ≤ c, sleep (delayAfter j) = delayAfter j) (hk : k ≤ c) :
    ∃ n, IsLast b c ready k n ∧
      pollOn sleep ready (between b c k) (pollTime k) = scheduled b ready k n := by
  induction hleft : c - k generalizing k with
  | zero =>
    obtain rfl : k = c := by omega
    refine ⟨k + 1, ⟨by omega, Nat.le_refl _, fun j hj hj' => by omega, .inr rfl⟩, ?_⟩
    rw [pollOn_between (hsleep k hk), if_pos (.inr (Nat.lt_succ_self k))]
  | succ left ih =>
    rw [pollOn_between (hsleep k hk)]
    by_cases hready : ReadyAt b ready (k + 1)
    · exact ⟨k + 1, ⟨by omega, by omega, fun j hj hj' => by omega, .inl hready⟩,
        if_pos (.inl hready)⟩
    · obtain ⟨n, hlast, hrest⟩ := ih (k := k + 1) (by omega) (by omega)
      refine ⟨n, ⟨Nat.lt_of_succ_lt hlast.lt, hlast.le, fun j hj hj' => ?_, hlast.ends⟩, ?_⟩
      · by_cases hfirst : j = k + 1
        · exact hfirst ▸ hready
        · exact hlast.missing j (by omega) hj'
      · have hceiling : ¬ c < k + 1 := by omega
        rw [if_neg (by simp [hready, hceiling]), hrest, scheduled_of_lt hlast.lt]

/-- A whole wait ends with its last poll. -/
lemma waitWith_eq (ready : Nat → BackendKind → Bool) (hb : b.isEmpty = false) {c : UInt32}
    (hsleep : ∀ j ≤ c.toNat, sleep (delayAfter j) = delayAfter j) :
    ∃ n, IsLast b c.toNat ready 0 n ∧
      waitWith sleep ready (Gate.new b c) = scheduled b ready 0 n := by
  obtain ⟨n, hlast, hwait⟩ := pollOn_eq b ready hsleep (Nat.zero_le _)
  refine ⟨n, hlast, ?_⟩
  rw [waitWith, show (Gate.new b c).backends = b from rfl, hb]
  exact hwait

/-- Backends that are not in use do not matter. -/
lemma scheduled_congr (hsame : ∀ t, ∀ kind ∈ b.kinds, ready' t kind = ready t kind) :
    (IsLast b c ready' k n ↔ IsLast b c ready k n) ∧
      scheduled b ready' k n = scheduled b ready k n := by
  have hready (j : Nat) : ReadyAt b ready' j ↔ ReadyAt b ready j :=
    forall₂_congr fun kind hkind => by rw [hsame _ kind hkind]
  have hmissing (t : Nat) : b.notReady (ready' t) = b.notReady (ready t) :=
    List.filter_congr fun kind hkind => by rw [hsame t kind hkind]
  constructor
  · constructor <;> rintro ⟨hlt, hle, hbefore, hends⟩
    · exact ⟨hlt, hle, fun j hj hj' => (hready j).not.mp (hbefore j hj hj'),
        hends.imp_left (hready n).mp⟩
    · exact ⟨hlt, hle, fun j hj hj' => (hready j).not.mpr (hbefore j hj hj'),
        hends.imp_left (hready n).mpr⟩
  · simp only [scheduled, verdict, hready, hmissing]

lemma polls_scheduled (h : 0 < n) : (scheduled b ready 0 n).polls = n := by
  simp only [Outcome.polls, scheduled, retries, List.length_append, List.length_map,
    List.length_range', List.length_singleton]
  omega

/-- What a poll in the log is. -/
lemma getElem?_log_scheduled {x : Nat × Poll} (hx : (scheduled b ready 0 n).log[k]? = some x)
    (hn : 0 < n) :
    (k + 1 < n ∧ x = (pollTime (k + 1), .retryAfter (delayAfter (k + 1)))) ∨
      (k + 1 = n ∧ x = (pollTime n, (verdict b ready n).2)) := by
  have hlength : (retries 0 n).length = n - 1 := by simp [retries]
  rw [scheduled] at hx
  by_cases hk : k < n - 1
  · rw [List.getElem?_append_left (hlength ▸ hk)] at hx
    simp only [retries, List.getElem?_map, List.getElem?_range' (show k < n - 0 - 1 by omega),
      Option.map_some, Option.some.injEq] at hx
    refine .inl ⟨by omega, ?_⟩
    rw [← hx]
    simp [Nat.add_comm]
  · rw [List.getElem?_append_right (hlength ▸ Nat.le_of_not_lt hk), hlength] at hx
    by_cases hlast : k = n - 1
    · subst hlast
      simp only [Nat.sub_self, List.getElem?_cons_zero, Option.some.injEq] at hx
      exact .inr ⟨by omega, hx.symm⟩
    · rw [List.getElem?_eq_none (by simp; omega)] at hx
      cases hx

lemma time_of_log_scheduled {t : Nat} {q : Poll}
    (hq : (scheduled b ready 0 n).log[k]? = some (t, q)) (hn : 0 < n) : t = pollTime (k + 1) := by
  obtain ⟨-, hsame⟩ | ⟨hk, hsame⟩ := getElem?_log_scheduled hq hn
  · exact (Prod.mk.inj hsame).1
  · exact hk ▸ (Prod.mk.inj hsame).1

/-- A delay is decided on by every poll but the last one. -/
lemma delay_of_log_scheduled {t d : Nat}
    (hd : (scheduled b ready 0 n).log[k]? = some (t, .retryAfter d)) (hn : 0 < n) :
    d = delayAfter (k + 1) := by
  obtain ⟨-, hsame⟩ | ⟨-, hsame⟩ := getElem?_log_scheduled hd hn
  · exact Poll.retryAfter.inj (Prod.mk.inj hsame).2
  · have hlast := (Prod.mk.inj hsame).2
    rw [verdict] at hlast
    split at hlast <;> cases hlast

/-- **When a wait ends, and what it has done until then.**  Take any backends of which at least one
is in use, any ceiling below the greatest one, and whatever the backends report at any time; let no
sleep last longer or shorter than asked.

* The `k`-th poll is made after `2 ^ k - 1` seconds, as long as the delay before it is less than
  the longest one, and later delays are all that one.
* If the `k`-th poll is the first to find every backend in use ready, and `k` is at most one more
  than the ceiling, then the gate arms there, after `k` polls.
* If there is no such poll, the gate gives up after the first poll behind the ceiling.
* The classifier, if it is in use, has been notified of each attempt before the last one, in order.
* The polls are not so many that a 32-bit counter overflows.  Each delay that a poll decides on is
  longer than the one before it, unless that was the longest one already.
* Backends that are not in use have no influence on any of this. -/
theorem wait_is_scheduled (b : Backends) (hb : b.isEmpty = false) (c : UInt32)
    (hc : c.toNat < UInt32.size - 1) (sleep : Nat → Nat)
    (hsleep : ∀ k ≤ c.toNat, sleep (delayAfter k) = delayAfter k)
    (ready : Nat → BackendKind → Bool) :
    let o := waitWith sleep ready (Gate.new b c)
    let notified (m : Nat) := if b.contentClassifier then List.range' 1 m else []
    ((∀ i time poll, o.log[i]? = some (time, poll) → time = pollTime (i + 1)) ∧
      (∀ k ≤ 64, pollTime k = 2 ^ k - 1) ∧
      ∀ k, 64 ≤ k → pollTime (k + 1) = pollTime k + (UInt64.size - 1)) ∧
    (∀ k, 1 ≤ k → k ≤ c.toNat + 1 → ReadyAt b ready k →
      (∀ j, 1 ≤ j → j < k → ¬ ReadyAt b ready j) →
      o.state = .armed ∧ o.elapsed = pollTime k ∧ o.polls = k ∧ o.notices = notified (k - 1)) ∧
    ((∀ k, 1 ≤ k → k ≤ c.toNat + 1 → ¬ ReadyAt b ready k) →
      o.state = .permanentlyFailed ∧ o.elapsed = pollTime (c.toNat + 1) ∧
        o.polls = c.toNat + 1 ∧ o.notices = notified c.toNat) ∧
    o.polls < UInt32.size ∧
    (∀ i time time' d d', o.log[i]? = some (time, .retryAfter d) →
      o.log[i + 1]? = some (time', .retryAfter d') →
      d < d' ∨ d = UInt64.size - 1 ∧ d' = UInt64.size - 1) ∧
    ∀ ready', (∀ t, ∀ kind ∈ b.kinds, ready' t kind = ready t kind) →
      waitWith sleep ready' (Gate.new b c) = o := by
  intro o notified
  obtain ⟨n, hlast, hwait⟩ := waitWith_eq ready hb hsleep
  have ho : o = scheduled b ready 0 n := hwait
  have hn : 0 < n := hlast.lt
  have hpolls : o.polls = n := by rw [ho, polls_scheduled hn]
  have hnotices : o.notices = notified (n - 1) := by rw [ho]; rfl
  have hstate : o.state = (verdict b ready n).1 := by rw [ho]; rfl
  have helapsed : o.elapsed = pollTime n := by rw [ho]; rfl
  refine ⟨⟨fun i time poll hpoll => ?_, fun k hk => pollTime_eq hk, fun k hk => ?_⟩,
    fun k hk hk' hready hmissing => ?_, fun hmissing => ?_, ?_, ?_, fun ready' hsame => ?_⟩
  · exact time_of_log_scheduled (ho ▸ hpoll) hn
  · rw [pollTime, delayAfter_of_le hk, longestDelay]
  · obtain rfl := hlast.unique ⟨hk, hk', hmissing, .inl hready⟩
    exact ⟨by rw [hstate, verdict, if_pos hready], helapsed, hpolls, hnotices⟩
  · have hmissing' := hmissing n hn hlast.le
    obtain rfl := hlast.ends.resolve_left hmissing'
    exact ⟨by rw [hstate, verdict, if_neg hmissing'], helapsed, hpolls, hnotices⟩
  · have := hlast.le
    omega
  · intro i time time' d d' hd hd'
    rw [ho] at hd hd'
    obtain rfl := delay_of_log_scheduled hd hn
    obtain rfl := delay_of_log_scheduled hd' hn
    by_cases hi : i + 1 < 64
    · exact .inl (delayAfter_lt_succ hi)
    · exact .inr ⟨delayAfter_of_le (Nat.le_of_not_lt hi), delayAfter_of_le (by omega)⟩
  · obtain ⟨n', hlast', hwait'⟩ := waitWith_eq ready' hb hsleep
    have hsame' := scheduled_congr (c := c.toNat) (k := 0) (n := n') hsame
    obtain rfl := hlast.unique (hsame'.1.mp hlast')
    rw [hwait', hsame'.2, ho]

end

/-- A classifier that is ready after five seconds is found ready at the third poll, after seven. -/
theorem wait_is_scheduled_for_slow_classifier :
    let ready (t : Nat) (kind : BackendKind) : Bool := kind = .ocr || 5 ≤ t
    let o := (Gate.new ⟨true, true⟩ 12).wait ready
    (∀ k ≤ 12, Wait.ofSecs (delayAfter k) = delayAfter k) ∧
      (¬ ReadyAt ⟨true, true⟩ ready 1 ∧ ¬ ReadyAt ⟨true, true⟩ ready 2 ∧
        ReadyAt ⟨true, true⟩ ready 3) ∧
      o.state = .armed ∧ o.elapsed = 7 ∧ o.polls = 3 ∧ o.notices = [1, 2] := by
  intro ready o
  have hsleep : ∀ k ≤ 12, Wait.ofSecs (delayAfter k) = delayAfter k :=
    fun k hk => ofSecs_delayAfter (by omega)
  have hready : ¬ ReadyAt ⟨true, true⟩ ready 1 ∧ ¬ ReadyAt ⟨true, true⟩ ready 2 ∧
      ReadyAt ⟨true, true⟩ ready 3 := by decide
  obtain ⟨-, harms, -⟩ :=
    wait_is_scheduled ⟨true, true⟩ rfl 12 (by decide) Wait.ofSecs hsleep ready
  refine ⟨hsleep, hready, harms 3 (by decide) (by decide) hready.2.2 fun j hj hj' => ?_⟩
  obtain rfl | rfl : j = 1 ∨ j = 2 := by omega
  · exact hready.1
  · exact hready.2.1

end PictureIndex.Gate
