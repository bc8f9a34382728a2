/-!
# Waits

Nothing waits for longer than thirty years of 365 days: a longer wait ends after that time.
-/

namespace PictureIndex.Wait

/-- The longest wait, in seconds. -/
def longestSecs : Nat := 30 * 365 * 24 * 60 * 60

/-- How long a wait of that many seconds lasts, in seconds. -/
def ofSecs (secs : Nat) : Nat := min secs longestSecs

/-- How long a wait of that many milliseconds lasts, in milliseconds. -/
def ofMillis (ms : Nat) : Nat := min ms (longestSecs * 1000)

end PictureIndex.Wait
