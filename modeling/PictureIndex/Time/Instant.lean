/-!
# Instants

A point of universal time is a number of seconds since 1970 and a number of nanoseconds after
that second.  During a leap second the nanoseconds run on from `10 ^ 9`.  Instants reach from
the year -262143 to the year 262142.

The index keeps whole microseconds.  `truncate` rounds an instant down to one; a leap second
flows into the second after it.
-/

namespace PictureIndex

/-- A point of universal time. -/
structure Instant where
  /-- Whole seconds since the start of 1970. -/
  secs : Int
  /-- Nanoseconds after that second, below `2 · 10 ^ 9`. -/
  nanos : Nat
deriving DecidableEq, Repr, Inhabited

namespace Instant

/-- The first second of the year -262143. -/
def firstSecond : Int := -8334601228800

/-- The last second of the year 262142. -/
def lastSecond : Int := 8210266876799

/-- The instant of the given seconds and nanoseconds, if there is one. -/
def of? (secs : Int) (nanos : Nat) : Option Instant :=
  if firstSecond ≤ secs ∧ secs ≤ lastSecond
      ∧ (nanos < 1000000000 ∨ nanos < 2000000000 ∧ secs % 60 = 59) then
    some ⟨secs, nanos⟩
  else none

/-- Whole microseconds since 1970, rounded down. -/
def micros (t : Instant) : Int := t.secs * 1000000 + (t.nanos / 1000 : Nat)

/-- The instant that many microseconds after the start of 1970, if there is one. -/
def ofMicros? (us : Int) : Option Instant :=
  of? (us / 1000000) ((us % 1000000).toNat * 1000)

/-- Whether an instant is representable and not in a leap second. -/
def IsOrdinary (t : Instant) : Prop :=
  firstSecond ≤ t.secs ∧ t.secs ≤ lastSecond ∧ t.nanos < 1000000000

instance (t : Instant) : Decidable t.IsOrdinary := inferInstanceAs (Decidable (_ ∧ _))

/-- What its microseconds tell of an instant is the instant rounded down, before 1970 as well. -/
theorem ofMicros?_micros {t : Instant} (h : t.IsOrdinary) :
    ofMicros? t.micros = some ⟨t.secs, t.nanos / 1000 * 1000⟩ := by
  obtain ⟨hfirst, hlast, hnanos⟩ := h
  have hsecs : t.micros / 1000000 = t.secs := by
    rw [micros]
    omega
  have hrest : (t.micros % 1000000).toNat = t.nanos / 1000 := by
    rw [micros]
    omega
  rw [ofMicros?, hsecs, hrest, of?, if_pos ⟨hfirst, hlast, .inl (by omega)⟩]

/-- The instant rounded down to a whole microsecond. -/
def truncate (t : Instant) : Instant := (ofMicros? t.micros).getD t

/-- The instant that many nanoseconds after the start of 1970, if there is one. -/
def ofNanos? (ns : Int) : Option Instant := of? (ns / 1000000000) (ns % 1000000000).toNat

end Instant

/-- A length of time in nanoseconds. -/
structure Duration where
  /-- Whole nanoseconds. -/
  nanos : Nat
deriving DecidableEq, Repr, Inhabited

namespace Duration

/-- Whole seconds of the duration. -/
def secs (d : Duration) : Nat := d.nanos / 1000000000

/-- Nanoseconds beyond the whole seconds. -/
def subsecNanos (d : Duration) : Nat := d.nanos % 1000000000

/-- A duration of whole milliseconds. -/
def ofMillis (n : Nat) : Duration := ⟨n * 1000000⟩

end Duration

end PictureIndex
