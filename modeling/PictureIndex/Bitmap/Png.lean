import PictureIndex.Bitmap
import PictureIndex.Bitmap.Inflate
/-!
# PNG pictures

A PNG picture is a signature and a sequence of chunks, each with its length, four letters, its
data and a check sum.  The first chunk has the size of the picture and the form of its pixels.
The data of the first `IDAT` chunks together is a compressed stream, which has to hold a byte with
the filter and the pixels for every row.  An interlaced picture is written in seven passes.

Chunks between the first one and the pixels matter in few ways: a critical one has to be known and
sound, a palette comes at most once, and frame controls of an animation have to describe the
whole picture.  After such a control the pixels may also stand in `fdAT` chunks, whose data
starts with a sequence number.
-/

namespace PictureIndex.Png

/-- A chunk. -/
structure Chunk where
  /-- Its four letters. -/
  tag : List UInt8
  /-- Its data. -/
  data : List UInt8
  /-- Whether it is complete with a correct check sum, or can be passed over. -/
  sound : Bool

/-- The check sum after one more byte. -/
def crcStep (crc : UInt32) (b : UInt8) : UInt32 :=
  let shift (n : UInt32) : UInt32 := if n &&& 1 = 1 then (0xEDB88320 : UInt32) ^^^ (n >>> 1) else n >>> 1
  let n := crc ^^^ b.toUInt32
  shift (shift (shift (shift (shift (shift (shift (shift n)))))))

/-- The check sum of a list of bytes. -/
def crc (bs : List UInt8) : UInt32 := bs.foldl crcStep (0xFFFFFFFF : UInt32) ^^^ (0xFFFFFFFF : UInt32)

/-- The signature. -/
def signature : List UInt8 := [0x89, 0x50, 0x4E, 0x47, 0x0D, 0x0A, 0x1A, 0x0A]

/-- The letters `IHDR`. -/
def headerTag : List UInt8 := [0x49, 0x48, 0x44, 0x52]

/-- The letters `PLTE`. -/
def paletteTag : List UInt8 := [0x50, 0x4C, 0x54, 0x45]

/-- The letters `IDAT`. -/
def dataTag : List UInt8 := [0x49, 0x44, 0x41, 0x54]

/-- The letters `fcTL`. -/
def controlTag : List UInt8 := [0x66, 0x63, 0x54, 0x4C]

/-- The letters `fdAT`. -/
def frameDataTag : List UInt8 := [0x66, 0x64, 0x41, 0x54]

/-- Whether pictures cannot be read without the chunk: its first letter is a capital. -/
def isCritical (tag : List UInt8) : Bool := tag.head?.any fun b => b.toNat / 32 % 2 = 0

/-- Whether a chunk holds pixels. -/
def isData (tag : List UInt8) : Bool := tag = dataTag || tag = frameDataTag

/-- The chunks of a picture; one that is cut off is the last. -/
def chunks : Nat → List UInt8 → List Chunk
  | 0, _ => []
  | fuel + 1, bs =>
    let length := Bitmap.bigEndian (bs.take 4)
    let tag := (bs.drop 4).take 4
    let data := (bs.drop 8).take length
    let sum := (bs.drop (8 + length)).take 4
    if tag.length < 4 then []
    else if sum.length < 4 then [⟨tag, data, false⟩]
    else
      let sound := !isCritical tag && !isData tag
        || Bitmap.bigEndian sum = (crc (tag ++ data)).toNat
      ⟨tag, data, sound⟩ :: chunks fuel (bs.drop (12 + length))

/-! ## The first chunk -/

/-- The size of a picture and the form of its pixels. -/
structure Header where
  /-- Width in pixels. -/
  width : Nat
  /-- Height in pixels. -/
  height : Nat
  /-- Bits of a pixel. -/
  bits : Nat
  /-- Whether pixels are places in a palette. -/
  indexed : Bool
  /-- Whether the picture is written in passes. -/
  interlaced : Bool

/-- Bits of a pixel for the given form, if there is such a form. -/
def pixelBits? (depth form : Nat) : Option Nat :=
  match form with
  | 0 => if [1, 2, 4, 8, 16].contains depth then some depth else none
  | 2 => if [8, 16].contains depth then some (3 * depth) else none
  | 3 => if [1, 2, 4, 8].contains depth then some depth else none
  | 4 => if [8, 16].contains depth then some (2 * depth) else none
  | 6 => if [8, 16].contains depth then some (4 * depth) else none
  | _ => none

/-- The header in the data of the first chunk. -/
def Header.ofData? (data : List UInt8) : Option Header := do
  let width := Bitmap.bigEndian (data.take 4)
  let height := Bitmap.bigEndian ((data.drop 4).take 4)
  let [depth, form, compression, filter, interlace] := ((data.drop 8).take 5).map (·.toNat) | failure
  let bits ← pixelBits? depth form
  if width = 0 || height = 0 || compression ≠ 0 || filter ≠ 0 || 1 < interlace then failure
  return ⟨width, height, bits, form = 3, interlace = 1⟩

/-! ## Chunks before the pixels -/

/-- What the chunks before the pixels told. -/
structure Preamble where
  /-- Size of the palette in bytes. -/
  palette : Option Nat
  /-- The last sequence number of an animation. -/
  sequence : Option Nat

namespace Preamble

/-- The sequence number that has to come next. -/
def nextNumber (p : Preamble) : Nat := p.sequence.elim 0 (· + 1)

/-- Whether the data of a frame control has the right number and describes the whole picture. -/
def acceptsControl (h : Header) (p : Preamble) (data : List UInt8) : Bool :=
  let number (i : Nat) : Nat := Bitmap.bigEndian ((data.drop i).take 4)
  26 ≤ data.length && number 0 = p.nextNumber && number 4 = h.width && number 8 = h.height
    && number 12 = 0 && number 16 = 0
    && (data[24]?).any (· ≤ 2) && (data[25]?).any (· ≤ 1)

/-- The preamble with one more chunk. -/
def add? (h : Header) (p : Preamble) (c : Chunk) : Option Preamble :=
  if !c.sound then none
  else if c.tag = paletteTag then
    if p.palette.isSome then none else some { p with palette := some c.data.length }
  else if c.tag = controlTag then
    if p.acceptsControl h c.data then some { p with sequence := some p.nextNumber } else none
  else if isCritical c.tag then none
  else some p

/-- Whether pixels can be read: places in a palette need one of whole colours. -/
def isEnough (h : Header) (p : Preamble) : Bool :=
  !h.indexed || p.palette.any fun n => 0 < n && n ≤ 3 * 256 && n % 3 = 0

end Preamble

/-! ## Pixels -/

/-- The pixel data of successive chunks: `IDAT` chunks as they are, `fdAT` chunks without their
sequence numbers, which have to count on. -/
def pixelData? (p : Preamble) : List Chunk → Option (List UInt8)
  | [] => some []
  | c :: cs =>
    if c.tag = dataTag then (pixelData? p cs).map (c.data ++ ·)
    else if p.sequence.isSome && 4 ≤ c.data.length
        && Bitmap.bigEndian (c.data.take 4) = p.nextNumber then
      (pixelData? { p with sequence := some p.nextNumber } cs).map (c.data.drop 4 ++ ·)
    else none

/-- Start and step of the columns and rows of each pass of an interlaced picture. -/
def passes : List (Nat × Nat × Nat × Nat) :=
  [(0, 8, 0, 8), (4, 8, 0, 8), (0, 4, 4, 8), (2, 4, 0, 4), (0, 2, 2, 4), (1, 2, 0, 2), (0, 1, 1, 2)]

/-- Number and length of the rows of each pass, filter bytes apart. -/
def passRows (h : Header) : List (Nat × Nat) :=
  let rows (width height : Nat) : Nat × Nat :=
    (if width = 0 then 0 else height, (width * h.bits + 7) / 8)
  if h.interlaced then
    passes.map fun (x, dx, y, dy) => rows ((h.width + dx - 1 - x) / dx) ((h.height + dy - 1 - y) / dy)
  else [rows h.width h.height]

/-- Number of bytes of all rows. -/
def dataSize (h : Header) : Nat := (passRows h).foldl (fun size (n, length) => size + n * (length + 1)) 0

/-- Whether every row follows a known filter. -/
def holdsRows (pixels : Array UInt8) : Nat → List Nat → Bool
  | _, [] => true
  | i, length :: rest => (pixels[i]?).any (· ≤ 4) && holdsRows pixels (i + 1 + length) rest

/-- The picture in a file. -/
def decode? (bs : List UInt8) : Option Bitmap := do
  if bs.take 8 ≠ signature then failure
  let first :: all := chunks bs.length (bs.drop 8) | failure
  if first.tag ≠ headerTag || !first.sound then failure
  let header ← Header.ofData? first.data
  let before := all.takeWhile (!isData ·.tag)
  let rest := all.drop before.length
  let preamble ← before.foldlM (Preamble.add? header) ⟨none, none⟩
  -- the data chunks stand together, and a further chunk follows them
  let next ← rest.head?
  let data := rest.takeWhile (·.tag = next.tag)
  if !preamble.isEnough header || !data.all (·.sound) || data.length = rest.length then failure
  let packed ← pixelData? preamble data
  let pixels ← Inflate.inflate? packed.toArray (dataSize header)
  let rows := (passRows header).flatMap fun (n, length) => List.replicate n length
  if !holdsRows pixels 0 rows then failure
  Bitmap.ofSize? header.width header.height

end PictureIndex.Png
