import PictureIndex.Bitmap
import PictureIndex.Bitmap.PrefixCode
/-!
# Losslessly packed pixels

The lossless form of WebP pixels: bits, read from the lowest of each byte, that hold

* the size of the picture, unless it is known from elsewhere;
* changes made to the pixels before they were written (`changes`), some with a small picture of
  their own;
* the pixels (`mainPixels`), which may choose between several groups of prefix codes, place by
  place, by means of another small picture.

A pixel is written as its four parts, as a repetition of pixels further up, or as the place of its
colour among those seen recently.  What the pixels look like does not matter here, except in the
picture that chooses codes: only there are colours kept.
-/

namespace PictureIndex.Webp.Lossless

/-- A place in packed pixels. -/
structure Reader where
  /-- The packed bytes. -/
  input : Array UInt8
  /-- Number of bits read. -/
  position : Nat
deriving Repr, Inhabited

/-- A step of reading, which fails where the data is broken or has come to its end. -/
abbrev Read (α : Type) := StateT Reader Option α

/-- The next bit. -/
def bit : Read Nat := do
  let r ← get
  let b ← Bitmap.lowBit? r.input r.position
  set { r with position := r.position + 1 }
  return b

/-- The next `n` bits, the first one lowest. -/
def bits : Nat → Read Nat
  | 0 => return 0
  | n + 1 => do
    let low ← bit
    let high ← bits n
    return low + 2 * high

/-! ## Codes -/

/-- A code of symbols. -/
inductive Code
  /-- The code of a single symbol, which is written without a bit. -/
  | lone (symbol : Nat)
  /-- A code of several symbols. -/
  | words (code : PrefixCode)
deriving Repr, Inhabited

namespace Code

/-- The code whose words have the given lengths, of which none is left over.  The length of a lone
word does not matter. -/
def ofLengths? (lengths : List Nat) : Option Code :=
  match lengths.zipIdx.filter (·.1 ≠ 0) with
  | [(_, s)] => some (.lone s)
  | _ => if PrefixCode.isComplete lengths then some (.words (.ofLengths lengths)) else none

/-- The next symbol. -/
def symbol : Code → Read Nat
  | lone s => return s
  | words c => do
    match ← c.read? bit with
    | some s => return s
    | none => failure

/-- The symbol that is written without a bit. -/
def lone? : Code → Option Nat
  | lone s => some s
  | words _ => none

end Code

/-- The order in which the lengths of the code for lengths are written. -/
def lengthOrder : List Nat := [17, 18, 0, 1, 2, 3, 4, 5, 16, 6, 7, 8, 9, 10, 11, 12, 13, 14, 15]

/-- Lengths of words for `size` symbols, read from so many symbols; `last` is the length of the last
word.  Symbols without a length have no word. -/
def codeLengths (c : Code) (size : Nat) : Nat → Nat → Array Nat → Read (Array Nat)
  | 0, _, lengths => return lengths
  | n + 1, last, lengths => do
    if size ≤ lengths.size then return lengths
    let s ← c.symbol
    -- 16 repeats the length of the last word, 17 and 18 are runs of symbols without a word
    if s < 16 then codeLengths c size n (if s = 0 then last else s) (lengths.push s)
    else
      let run ← if s = 18 then do pure (11 + (← bits 7))
        else do pure (3 + (← bits (if s = 16 then 2 else 3)))
      if size < lengths.size + run then failure
      codeLengths c size n last (lengths ++ Array.replicate run (if s = 16 then last else 0))

/-- Length of the last word before there is any. -/
def firstLength : Nat := 8

/-- A code for `size` symbols. -/
def code (size : Nat) : Read Code := do
  if (← bit) = 1 then
    -- one or two symbols, named outright
    let two ← bit
    let first ← bits (if (← bit) = 1 then 8 else 1)
    if size ≤ first then failure
    if two = 0 then return .lone first
    let second ← bits 8
    if size ≤ second then failure
    return .words ⟨[2], #[first, second]⟩
  else
    let n := 4 + (← bits 4)
    let written ← (lengthOrder.take n).mapM fun i => do return (i, ← bits 3)
    let c ← Code.ofLengths? ((List.range 19).map fun i => (written.lookup i).getD 0)
    let count ← if (← bit) = 0 then pure size else do
      let n ← bits (2 + 2 * (← bits 3))
      if size < n + 2 then failure
      pure (n + 2)
    let lengths ← codeLengths c size count firstLength #[]
    Code.ofLengths? lengths.toList

/-- The codes of a pixel. -/
structure Group where
  /-- Code of the green part, of lengths of repetitions, and of places among recent colours. -/
  green : Code
  /-- Code of the red part. -/
  red : Code
  /-- Code of the blue part. -/
  blue : Code
  /-- Code of the opacity. -/
  alpha : Code
  /-- Code of distances. -/
  distance : Code
deriving Repr, Inhabited

/-- Number of symbols for lengths of repetitions. -/
def lengthCount : Nat := 24

/-- Number of symbols for distances. -/
def distanceCount : Nat := 40

/-- The codes of a pixel, where so many recent colours are remembered. -/
def group (remembered : Nat) : Read Group := do
  return ⟨← code (256 + lengthCount + remembered), ← code 256, ← code 256, ← code 256,
    ← code distanceCount⟩

/-- Whether all pixels are the same and written without a bit. -/
def Group.isPlain (g : Group) : Bool :=
  g.green.lone?.any (· < 256) && g.red.lone?.isSome && g.blue.lone?.isSome && g.alpha.lone?.isSome

/-! ## Pixels -/

/-- Pixels read so far, in rows from the top. -/
structure Pixels where
  /-- Width of the rows. -/
  width : Nat
  /-- Number of pixels. -/
  count : Nat
  /-- Whether colours matter. -/
  areKept : Bool
  /-- The colours, if they matter: opacity, red, green and blue in a byte each. -/
  colours : Array Nat
  /-- Colours seen recently, if they matter: each one has a place of its own. -/
  recent : Array Nat
deriving Repr, Inhabited

namespace Pixels

/-- A spread of the colours over `n` places, a power of two. -/
def place (n colour : Nat) : Nat := colour * 0x1E35A7BD % UInt32.size / (UInt32.size / n)

/-- Adds pixels of one colour. -/
def add (p : Pixels) (colour n : Nat) : Pixels :=
  if p.areKept then
    { p with
      count := p.count + n
      colours := p.colours ++ Array.replicate n colour
      recent := p.recent.setIfInBounds (place p.recent.size colour) colour }
  else { p with count := p.count + n }

/-- Adds the recent colour of a place. -/
def addRecent (p : Pixels) (i : Nat) : Pixels :=
  if p.areKept then
    { p with count := p.count + 1, colours := p.colours.push (p.recent.getD i 0) }
  else { p with count := p.count + 1 }

/-- Adds pixels from `distance` pixels back, one after the other. -/
def copy (p : Pixels) (distance : Nat) : Nat → Pixels
  | 0 => p
  | n + 1 => (p.add (p.colours.getD (p.count - distance) 0) 1).copy distance n

end Pixels

/-- Which group of codes is used where. -/
structure Layout where
  /-- Blocks of pixels have sides of two to this power. -/
  scale : Nat
  /-- Number of blocks in a row. -/
  across : Nat
  /-- The group of each block; without any, there is one group for all. -/
  choices : Array Nat
  /-- The groups. -/
  groups : Array Group
deriving Repr, Inhabited

/-- The group for the next pixel. -/
def Layout.groupFor (l : Layout) (p : Pixels) : Group :=
  let block := (p.count / p.width) >>> l.scale * l.across + (p.count % p.width) >>> l.scale
  l.groups.getD (l.choices.getD block 0) default

/-- How many of the next pixels certainly have one group, if `total` are wanted. -/
def Layout.run (l : Layout) (p : Pixels) (total : Nat) : Nat :=
  if l.choices.isEmpty then total - p.count
  else
    let x := p.count % p.width
    min p.width ((x >>> l.scale + 1) <<< l.scale) - x

/-- A length or distance for a symbol: small ones are symbols of their own, others have further
bits. -/
def extent (s : Nat) : Read Nat :=
  if s < 4 then return s + 1
  else do
    let n := (s - 2) / 2
    return (2 + s % 2) <<< n + (← bits n) + 1

/-- The places of pixels near to the next one, most likely first: how far to the left, and how many
rows up. -/
def neighbours : Array (Int × Nat) :=
  #[(0, 1), (1, 0), (1, 1), (-1, 1), (0, 2), (2, 0), (1, 2), (-1, 2), (2, 1), (-2, 1), (2, 2),
    (-2, 2), (0, 3), (3, 0), (1, 3), (-1, 3), (3, 1), (-3, 1), (2, 3), (-2, 3), (3, 2),
    (-3, 2), (0, 4), (4, 0), (1, 4), (-1, 4), (4, 1), (-4, 1), (3, 3), (-3, 3), (2, 4),
    (-2, 4), (4, 2), (-4, 2), (0, 5), (3, 4), (-3, 4), (4, 3), (-4, 3), (5, 0), (1, 5),
    (-1, 5), (5, 1), (-5, 1), (2, 5), (-2, 5), (5, 2), (-5, 2), (4, 4), (-4, 4), (3, 5),
    (-3, 5), (5, 3), (-5, 3), (0, 6), (6, 0), (1, 6), (-1, 6), (6, 1), (-6, 1), (2, 6),
    (-2, 6), (6, 2), (-6, 2), (4, 5), (-4, 5), (5, 4), (-5, 4), (3, 6), (-3, 6), (6, 3),
    (-6, 3), (0, 7), (7, 0), (1, 7), (-1, 7), (5, 5), (-5, 5), (7, 1), (-7, 1), (4, 6),
    (-4, 6), (6, 4), (-6, 4), (2, 7), (-2, 7), (7, 2), (-7, 2), (3, 7), (-3, 7), (7, 3),
    (-7, 3), (5, 6), (-5, 6), (6, 5), (-6, 5), (8, 0), (4, 7), (-4, 7), (7, 4), (-7, 4),
    (8, 1), (8, 2), (6, 6), (-6, 6), (8, 3), (5, 7), (-5, 7), (7, 5), (-7, 5), (8, 4), (6, 7),
    (-6, 7), (7, 6), (-7, 6), (8, 5), (7, 7), (-7, 7), (8, 6), (8, 7)]

/-- The distance back from a pixel that a number stands for. -/
def distanceOf (width n : Nat) : Nat :=
  match neighbours[n - 1]? with
  | some (x, y) => (max 1 (x + y * width)).toNat
  | none => n - neighbours.size

/-- Reads pixels until there are `total`; each step adds at least one. -/
def pixels (l : Layout) (total : Nat) : Nat → Pixels → Read Pixels
  | 0, p => return p
  | fuel + 1, p => do
    if total ≤ p.count then return p
    let g := l.groupFor p
    let s ← g.green.symbol
    if s < 256 then
      let red ← g.red.symbol
      let blue ← g.blue.symbol
      let alpha ← g.alpha.symbol
      let n := if g.isPlain then l.run p total else 1
      pixels l total fuel (p.add (((alpha * 256 + red) * 256 + s) * 256 + blue) n)
    else if s < 256 + lengthCount then
      let length ← extent (s - 256)
      let distance := distanceOf p.width (← extent (← g.distance.symbol))
      if p.count < distance || total - p.count < length then failure
      let p := if p.areKept then p.copy distance length else { p with count := p.count + length }
      pixels l total fuel p
    else pixels l total fuel (p.addRecent (s - 256 - lengthCount))

/-- Number of recent colours that are remembered. -/
def remembered : Read Nat := do
  if (← bit) = 0 then return 0
  let n ← bits 4
  if n = 0 || 11 < n then failure
  return 1 <<< n

/-- The colours of a small picture, which has one group of codes. -/
def part (width height : Nat) (areKept : Bool) : Read (Array Nat) := do
  let n ← remembered
  let g ← group n
  let total := width * height
  let p ← pixels ⟨0, 1, #[], #[g]⟩ total total
    ⟨width, 0, areKept, #[], if areKept then Array.replicate n 0 else #[]⟩
  return p.colours

/-- How many blocks, with sides of two to a power, cover a length. -/
def blocks (length scale : Nat) : Nat := (length + (1 <<< scale) - 1) >>> scale

/-- The pixels themselves. -/
def mainPixels (width height : Nat) : Read Unit := do
  let n ← remembered
  let (scale, choices) ← if (← bit) = 0 then pure (0, #[]) else do
    let scale := 2 + (← bits 3)
    let colours ← part (blocks width scale) (blocks height scale) true
    -- red and green name the group
    pure (scale, colours.map (· / 256 % 0x10000))
  let groups ← (List.range (choices.foldl max 0 + 1)).mapM fun _ => group n
  let total := width * height
  let _ ← pixels ⟨scale, blocks width scale, choices, groups.toArray⟩ total total
    ⟨width, 0, false, #[], #[]⟩

/-! ## All of it -/

/-- Passes over the changes, of which each of four kinds comes at most once, and tells the width
that the pixels have with them. -/
def changes (height : Nat) : Nat → List Nat → Nat → Read Nat
  | 0, _, _ => failure
  | fuel + 1, seen, width => do
    if (← bit) = 0 then return width
    let kind ← bits 2
    if seen.contains kind then failure
    if kind = 3 then
      -- colours from a table, several pixels in one if it is short
      let size := 1 + (← bits 8)
      let _ ← part size 1 false
      let scale := if size ≤ 2 then 3 else if size ≤ 4 then 2 else if size ≤ 16 then 1 else 0
      changes height fuel (kind :: seen) (blocks width scale)
    else if kind = 2 then changes height fuel (kind :: seen) width
    else
      let scale := 2 + (← bits 3)
      let _ ← part (blocks width scale) (blocks height scale) false
      changes height fuel (kind :: seen) width

/-- Changes and pixels. -/
def body (width height : Nat) : Read Unit := do
  mainPixels (← changes height 5 [] width) height

/-- Whether some bytes hold pixels for a size. -/
def holds (width height : Nat) (data : Array UInt8) : Bool := ((body width height).run ⟨data, 0⟩).isSome

/-- The size in front of the pixels, and whether they have opacity. -/
def header : Read (Bitmap × Bool) := do
  if (← bits 8) ≠ 0x2F then failure
  let width := 1 + (← bits 14)
  let height := 1 + (← bits 14)
  let opacity ← bit
  if (← bits 3) ≠ 0 then failure
  return (⟨width, height⟩, opacity = 1)

/-- The picture in some bytes, and whether it has opacity. -/
def decode? (data : Array UInt8) : Option (Bitmap × Bool) := do
  let ((size, opacity), r) ← header.run ⟨data, 0⟩
  let _ ← (body size.width size.height).run r
  return (size, opacity)

end PictureIndex.Webp.Lossless
