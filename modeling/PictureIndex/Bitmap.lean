/-!
# Bitmaps

A decoded picture.  Indexing hands it on to text recognition and looks at nothing but its size.
-/

namespace PictureIndex

/-- A decoded picture. -/
structure Bitmap where
  /-- Width in pixels. -/
  width : Nat
  /-- Height in pixels. -/
  height : Nat
deriving DecidableEq, Repr, Inhabited

namespace Bitmap

/-- The bitmap of a size, unless it has no pixels. -/
def ofSize? (width height : Nat) : Option Bitmap :=
  if 0 < width ∧ 0 < height then some ⟨width, height⟩ else none

/-- A number written with its first byte in the highest place. -/
def bigEndian (bs : List UInt8) : Nat := bs.foldl (fun n b => n * 256 + b.toNat) 0

/-- A number written with its first byte in the lowest place. -/
def littleEndian (bs : List UInt8) : Nat := bs.foldr (fun b n => n * 256 + b.toNat) 0

/-- A bit of some bytes, if there are so many; those of a byte are counted from the lowest. -/
def lowBit? (bytes : Array UInt8) (i : Nat) : Option Nat :=
  bytes[i / 8]?.map fun b => b.toNat >>> (i % 8) % 2

end Bitmap

end PictureIndex
