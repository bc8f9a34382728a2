import PictureIndex.Bitmap.Webp.KeyFrame
import PictureIndex.Bitmap.Webp.Lossless
/-!
# WebP pictures

A WebP picture is a container of chunks, each of which has a tag and a length.  The first chunk
tells what kind of picture it is:

* a simple one, whose pixels are in this chunk, losslessly packed (`VP8L`) or as a key frame
  (`VP8 `);
* an extended one (`VP8X`), which tells its size and what else there is: further chunks hold its
  pixels, perhaps with opacity apart from them (`ALPH`), or the frames of an animation (`ANMF`),
  each with chunks of its own.

Of an animation the first frame is decoded.  A chunk may claim to be longer than the file: its data
ends with the file.
-/

namespace PictureIndex.Webp

/-- Tags of the chunks that matter. -/
inductive Tag
  /-- A key frame. -/
  | keyFrame
  /-- Losslessly packed pixels. -/
  | lossless
  /-- What an extended picture has. -/
  | extended
  /-- How an animation is shown. -/
  | animation
  /-- A frame of an animation. -/
  | frame
  /-- Opacity of the pixels of a key frame. -/
  | opacity
  /-- Notes of the camera. -/
  | camera
  /-- Other notes. -/
  | notes
deriving DecidableEq, Repr

/-- The letters of a tag. -/
def Tag.letters : Tag → String
  | keyFrame => "VP8 "
  | lossless => "VP8L"
  | extended => "VP8X"
  | animation => "ANIM"
  | frame => "ANMF"
  | opacity => "ALPH"
  | camera => "EXIF"
  | notes => "XMP "

/-- The bytes of some letters. -/
def bytesOf (s : String) : List UInt8 := s.toList.map fun c => UInt8.ofNat c.toNat

/-- The tag of some bytes. -/
def Tag.ofBytes? (bs : List UInt8) : Option Tag :=
  [keyFrame, lossless, extended, animation, frame, opacity, camera, notes].find?
    fun t => bytesOf t.letters = bs

/-- A chunk of a file. -/
structure Chunk where
  /-- Its tag, if it matters. -/
  tag : Option Tag
  /-- Where its data starts. -/
  start : Nat
  /-- Length of the data. -/
  length : Nat
deriving Repr

/-- A number of some bytes of a file. -/
def number? (file : Array UInt8) (start length : Nat) : Option Nat :=
  if start + length ≤ file.size then
    some (Bitmap.littleEndian (file.extract start (start + length)).toList)
  else none

namespace Chunk

/-- Number of bytes in front of the data. -/
def front : Nat := 8

/-- The chunk at a place, if its tag and length are there. -/
def at? (file : Array UInt8) (place : Nat) : Option Chunk := do
  let length ← number? file (place + 4) 4
  return ⟨Tag.ofBytes? (file.extract place (place + 4)).toList, place + front, length⟩

/-- Length of the data with the byte that makes it even; no length is larger than four bytes can
tell. -/
def padded (c : Chunk) : Nat := min (c.length + c.length % 2) (UInt32.size - 1)

/-- The data, as far as it is there. -/
def data (c : Chunk) (file : Array UInt8) : Array UInt8 := file.extract c.start (c.start + c.length)

/-- The place behind the chunk. -/
def next (c : Chunk) : Nat := c.start + c.padded

end Chunk

/-- What an extended picture tells about itself. -/
structure Extended where
  /-- Its size. -/
  size : Bitmap
  /-- Whether it is an animation. -/
  isAnimation : Bool
  /-- Whether it has opacity. -/
  hasOpacity : Bool
  /-- Whether it has notes of the camera. -/
  hasCamera : Bool
  /-- Whether it has other notes. -/
  hasNotes : Bool

/-- What an extended picture tells about itself at a place.  It has fewer than 2³² pixels. -/
def Extended.at? (file : Array UInt8) (place : Nat) : Option Extended := do
  let flags ← number? file place 1
  let width := 1 + (← number? file (place + 4) 3)
  let height := 1 + (← number? file (place + 7) 3)
  if UInt32.size ≤ width * height then failure
  return ⟨⟨width, height⟩, flags.testBit 1, flags.testBit 4, flags.testBit 3, flags.testBit 2⟩

/-! ## Frames -/

/-- Number of bytes in front of the chunks of a frame. -/
def frameFront : Nat := 16

/-- Whether the chunk of a frame has what is looked at when chunks are listed: the bytes in front of
its own chunks and, as long as all pixels are packed without loss, the start of the first of
these.  Tells whether they still are. -/
def Chunk.surveyFrame? (file : Array UInt8) (isLossless : Bool) (c : Chunk) : Option Bool := do
  if c.length < frameFront + Chunk.front || file.size < c.start + frameFront then failure
  if !isLossless then return false
  let inner ← at? file (c.start + frameFront)
  return inner.tag ≠ some .keyFrame && inner.tag ≠ some .opacity

/-- The chunks from a place on that start in front of `limit`, up to the end of the file. -/
def chunks? (file : Array UInt8) (limit : Nat) : Nat → Bool → Nat → Option (List Chunk)
  | 0, _, _ => some []
  | fuel + 1, isLossless, place =>
    if limit ≤ place then some []
    else match Chunk.at? file place with
      | none => some []
      | some c => do
        let isLossless ← if c.tag = some .frame then c.surveyFrame? file isLossless
          else pure isLossless
        return c :: (← chunks? file limit fuel isLossless c.next)

/-- The first chunk with a tag. -/
def find? (cs : List Chunk) (t : Tag) : Option Chunk := cs.find? (·.tag = some t)

/-- The two chunks at the start of a frame, as far as it is long enough for both. -/
def Chunk.inner? (file : Array UInt8) (c : Chunk) : Option (List Chunk) := do
  let first ← at? file (c.start + frameFront)
  if c.start + c.length < first.next + front then return [first]
  -- the second one is looked for where the data of the first one starts, and told to be behind it
  let second ← at? file first.start
  return [first, { second with start := first.next + front }]

/-! ## Pixels -/

/-- Whether some bytes hold opacity for a size: a byte with its form, and then a byte for each pixel
or packed pixels. -/
def holdsOpacity (size : Bitmap) (data : Array UInt8) : Bool :=
  match data[0]? with
  | none => false
  | some form =>
    let rest := data.extract 1 data.size
    form.toNat / 0x10 % 4 < 2 &&
      match form.toNat % 4 with
      | 0 => size.width * size.height ≤ rest.size
      | 1 => Lossless.holds size.width size.height rest
      | _ => false

/-- Whether a chunk holds a key frame of a size. -/
def Chunk.holdsKeyFrame (file : Array UInt8) (size : Bitmap) (c : Chunk) : Bool :=
  KeyFrame.decode? (c.data file) = some size

/-- Whether a chunk holds losslessly packed pixels of a size. -/
def Chunk.holdsLossless (file : Array UInt8) (size : Bitmap) (c : Chunk) : Bool :=
  (Lossless.decode? (c.data file)).map (·.1) = some size

/-- Whether an extended picture without an animation has its pixels. -/
def Extended.holdsPixels (x : Extended) (file : Array UInt8) (cs : List Chunk) : Bool :=
  match find? cs .lossless with
  | some c => c.holdsLossless file x.size
  | none =>
    (find? cs .keyFrame).any (·.holdsKeyFrame file x.size) &&
      (!x.hasOpacity || (find? cs .opacity).any fun c => holdsOpacity x.size (c.data file))

/-- The longest side of a frame. -/
def longestSide : Nat := 16384

/-- Whether the chunk of a frame of an animation has its pixels.  The frame lies within the picture,
and its own chunks lie within its chunk. -/
def Extended.holdsFrame (x : Extended) (file : Array UInt8) (c : Chunk) : Bool :=
  let held : Option Unit := do
    if c.length < 2 * Chunk.front + frameFront then failure
    let left := 2 * (← number? file c.start 3)
    let top := 2 * (← number? file (c.start + 3) 3)
    let width := 1 + (← number? file (c.start + 6) 3)
    let height := 1 + (← number? file (c.start + 9) 3)
    let size : Bitmap := ⟨width, height⟩
    if longestSide < width || longestSide < height then failure
    if x.size.width < left + width || x.size.height < top + height then failure
    let first ← Chunk.at? file (c.start + frameFront)
    if c.length < first.padded + Chunk.front + frameFront then failure
    match first.tag with
    | some .keyFrame => guard (first.holdsKeyFrame file size)
    | some .lossless => guard (first.holdsLossless file size)
    | some .opacity =>
      if c.length < first.padded + 2 * Chunk.front + frameFront then failure
      guard (holdsOpacity size (first.data file))
      let second ← Chunk.at? file first.next
      if c.length < first.length + second.length + 2 * Chunk.front + frameFront then failure
      guard (second.holdsKeyFrame file size)
    | _ => failure
  held.isSome

/-! ## Pictures -/

/-- The most bytes that a picture may unpack to. -/
def mostBytes : Nat := 512 * 1024 * 1024

/-- Whether a picture is small enough to be unpacked. -/
def isSmall (size : Bitmap) (hasOpacity : Bool) : Bool :=
  size.width * size.height * (if hasOpacity then 4 else 3) ≤ mostBytes

/-- Number of bytes in front of the data of the first chunk. -/
def fileFront : Nat := 20

/-- An extended picture whose first chunk is `c`, in a file that claims to have `length` bytes
behind its own tag and length. -/
def decodeExtended? (file : Array UInt8) (length : Nat) (c : Chunk) : Option Bitmap := do
  let x ← Extended.at? file c.start
  let cs ← chunks? file (c.next + (length - 12)) file.size true c.next
  let has (t : Tag) : Bool := (find? cs t).isSome
  if x.hasCamera && !has .camera || x.hasNotes && !has .notes then failure
  let inner ← match find? cs .frame with
    | some frame => frame.inner? file
    | none => pure []
  if x.isAnimation then
    let shown ← find? cs .animation
    let frame ← find? cs .frame
    if shown.length ≠ 6 || (shown.data file).size ≠ 6 then failure
    if isSmall x.size x.hasOpacity && x.holdsFrame file frame then return x.size else failure
  else
    if has .keyFrame = has .lossless then failure
    if isSmall x.size x.hasOpacity && x.holdsPixels file (cs ++ inner) then return x.size
    else failure

/-- The picture in a file. -/
def decode? (bs : List UInt8) : Option Bitmap := do
  let file := bs.toArray
  if bs.take 4 ≠ bytesOf "RIFF" || (bs.drop 8).take 4 ≠ bytesOf "WEBP" then failure
  let length ← number? file 4 4
  let c ← Chunk.at? file (fileFront - Chunk.front)
  match c.tag with
  | some .extended => decodeExtended? file length c
  | some .lossless =>
    let ((size, hasOpacity), _) ← Lossless.header.run ⟨c.data file, 0⟩
    -- the sides of a simple picture have fourteen bits
    if 0x4000 ≤ size.width || 0x4000 ≤ size.height || !isSmall size hasOpacity then failure
    if c.holdsLossless file size then return size else failure
  | some .keyFrame =>
    let size ← KeyFrame.size? (c.data file)
    if isSmall size false && c.holdsKeyFrame file size then return size else failure
  | _ => none

end PictureIndex.Webp
