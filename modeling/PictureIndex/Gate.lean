import PictureIndex.Backend
import PictureIndex.Status
import PictureIndex.Time.Wait
/-!
# The readiness gate

Indexing begins when every backend in use is ready.  The gate polls them, waiting one second
before the first poll and `2 ^ k` seconds after the `k`-th one, and gives up for good when a poll
after the ceiling still finds a backend that is not ready.  No single wait is longer than
`Wait.longestSecs`, whatever the delay.
-/

namespace PictureIndex

/-- A gate between two polls. -/
structure Gate where
  /-- The backends waited for. -/
  backends : Backends
  /-- Number of polls after which the gate gives up. -/
  ceiling : Nat
  /-- Number of polls so far. -/
  attempts : Nat
  /-- The delay decided on last, in seconds. -/
  nextDelay : Nat
deriving DecidableEq, Repr, Inhabited

/-- What a poll leads to. -/
inductive Poll
  /-- All backends are ready. -/
  | ready
  /-- The next poll comes after that many seconds. -/
  | retryAfter (secs : Nat)
  /-- The gate gives up on these backends. -/
  | failed (missing : List BackendKind)
deriving DecidableEq, Repr

namespace Gate

/-- The gate of a configuration before its first poll. -/
def new (backends : Backends) (ceiling : UInt32) : Gate := ⟨backends, ceiling.toNat, 0, 1⟩

/-- The longest delay, in seconds. -/
def longestDelay : Nat := UInt64.size - 1

/-- The delay after the given number of polls, in seconds. -/
def delayAfter (attempts : Nat) : Nat := min (1 <<< attempts) longestDelay

/-- One poll. -/
def poll (g : Gate) (ready : BackendKind → Bool) : Gate × Poll :=
  let g := { g with attempts := g.attempts + 1 }
  let missing := g.backends.notReady ready
  if missing.isEmpty then (g, .ready)
  else if g.ceiling < g.attempts then (g, .failed missing)
  else
    let delay := delayAfter g.attempts
    ({ g with nextDelay := delay }, .retryAfter delay)

/-- The attempt of which a poll notifies the backends, if it does.  Only the classifier listens. -/
def notified? (g : Gate) : Poll → Option Nat
  | .retryAfter _ => if g.backends.contentClassifier then some g.attempts else none
  | _ => none

/-- The end of a wait. -/
structure Outcome where
  /-- Armed or given up. -/
  state : GateState
  /-- Time waited, in seconds. -/
  elapsed : Nat
  /-- The polls in order, each with the time at which it was made, in seconds. -/
  log : List (Nat × Poll)
  /-- The attempts of which the classifier was notified, in order. -/
  notices : List Nat
deriving DecidableEq, Repr

/-- Number of polls. -/
def Outcome.polls (o : Outcome) : Nat := o.log.length

/-- Polls until the gate arms or gives up, where `ready t` tells which backends are ready after
`t` seconds and `sleep secs` how long it takes to sleep for `secs` seconds; `elapsed` seconds have
passed. -/
def pollOn (sleep : Nat → Nat) (ready : Nat → BackendKind → Bool) (g : Gate) (elapsed : Nat) :
    Outcome :=
  let now := elapsed + sleep g.nextDelay
  match _h : g.poll (ready now) with
  | (_, .ready) => ⟨.armed, now, [(now, .ready)], []⟩
  | (_, .failed missing) => ⟨.permanentlyFailed, now, [(now, .failed missing)], []⟩
  | (g', .retryAfter d) =>
    let rest := pollOn sleep ready g' now
    { rest with
      log := (now, .retryAfter d) :: rest.log
      notices := (g'.notified? (.retryAfter d)).toList ++ rest.notices }
termination_by g.ceiling - g.attempts
decreasing_by
  simp only [poll] at _h
  split at _h
  · simp at _h
  · split at _h
    · simp at _h
    · next hc =>
      simp only [Prod.mk.injEq] at _h
      obtain ⟨rfl, -⟩ := _h
      simp only at hc ⊢
      omega

/-- Waits until the gate arms or gives up, sleeping as `sleep` does.  Where no backend is in use
there is nothing to wait for. -/
def waitWith (sleep : Nat → Nat) (ready : Nat → BackendKind → Bool) (g : Gate) : Outcome :=
  if g.backends.isEmpty then ⟨.armed, 0, [], []⟩ else pollOn sleep ready g 0

/-- Waits until the gate arms or gives up. -/
def wait (ready : Nat → BackendKind → Bool) (g : Gate) : Outcome := g.waitWith Wait.ofSecs ready

end Gate

end PictureIndex
