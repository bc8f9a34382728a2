/-!
# The budget of a session

A session annotates a limited number of pictures, or any number where there is no limit.  The
count saturates at the largest 32-bit number.
-/

namespace PictureIndex

/-- How many pictures were annotated, and how many may be. -/
structure Budget where
  /-- The limit, if there is one. -/
  limit : Option UInt32
  /-- Pictures annotated in this session. -/
  used : UInt32
deriving DecidableEq, Repr, Inhabited

namespace Budget

/-- The unused budget with the given limit. -/
def ofLimit (limit : Option UInt32) : Budget := ⟨limit, 0⟩

/-- Whether no further picture may be annotated. -/
def isExhausted (b : Budget) : Bool := b.limit.any (· ≤ b.used)

/-- The budget after one more picture. -/
def spend (b : Budget) : Budget :=
  { b with used := if b.used.toNat + 1 < UInt32.size then b.used + 1 else b.used }

end Budget

end PictureIndex
