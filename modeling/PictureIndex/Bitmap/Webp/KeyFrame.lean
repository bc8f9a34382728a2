import PictureIndex.Bitmap
import PictureIndex.Bitmap.Webp.Chances
/-!
# Key frames

The other form of WebP pixels is a key frame of a video code.  Its bytes are a size, a first
partition and up to eight more.  All partitions are answers to questions, packed by how likely they
are (`answer`): those of the first one are about the whole frame (`header`) and about the modes of
each macroblock of 16 times 16 pixels (`modes`), those of the others are about the values of its
blocks of four times four (`values`).  The rows of macroblocks take turns with the other
partitions.

Modes and values do not matter, except that the chances of later questions hang on them.  A frame
is there if no partition comes to its end before the last answer.
-/

namespace PictureIndex.Webp.KeyFrame

/-! ## Answers -/

/-- A place in a partition.  The data is one long number.  Each answer narrows the range in which it
lies: "no" is the lower part of the range, "yes" the upper one. -/
structure Reader where
  /-- The bytes of the partition. -/
  input : Array UInt8
  /-- How far above the bottom of the range the number is, as far as the bits at hand tell. -/
  value : Nat
  /-- Size of the range in units of the last bit at hand, 128 or more between answers. -/
  range : Nat
  /-- Number of bits at hand, apart from the first eight. -/
  taken : Nat
deriving Repr, Inhabited

/-- A step of reading, which fails where the data is broken or has come to its end. -/
abbrev Read (α : Type) := StateT Reader Option α

namespace Reader

/-- The start of a partition. -/
def ofBytes (bytes : Array UInt8) : Reader := ⟨bytes, (bytes.getD 0 0).toNat, 255, 0⟩

/-- `n` of the bits behind those at hand, at most eight; behind the end there are zeros. -/
def ahead (r : Reader) (n : Nat) : Nat :=
  let byte (i : Nat) : Nat := (r.input.getD i 0).toNat
  let i := r.taken / 8 + 1
  (byte i * 256 + byte (i + 1)) >>> (16 - r.taken % 8 - n) % (1 <<< n)

/-- Makes the range 128 or more: the bits that follow make the unit smaller. -/
def widen (r : Reader) : Reader :=
  let n := 7 - r.range.log2
  { r with value := r.value <<< n + r.ahead n, range := r.range <<< n, taken := r.taken + n }

end Reader

/-- The next answer, where the chance of "no" is `p` parts of 256.  The eight bits from `taken` on
have to lie in the partition or in one byte of zeros behind it. -/
def answer (p : Nat) : Read Bool := do
  let r ← get
  if 8 * r.input.size < r.taken then failure
  let split := 1 + (r.range - 1) * p / 256
  if r.value < split then
    set { r with range := split }.widen
    return false
  else
    set { r with value := r.value - split, range := r.range - split }.widen
    return true

/-- An answer of which nothing is known. -/
def flag : Read Bool := answer 128

/-- A number of `n` bits, the first one highest. -/
def number : Nat → Read Nat
  | 0 => return 0
  | n + 1 => do
    let high := if ← flag then 1 <<< n else 0
    return high + (← number n)

/-- Passes over numbers of `bits` bits and a sign, each of which may be missing. -/
def passNumbers (bits : Nat) : Nat → Read Unit
  | 0 => return ()
  | n + 1 => do
    if ← flag then
      let _ ← number (bits + 1)
    passNumbers bits n

/-- Questions that lead to a value. -/
inductive Questions (α : Type)
  /-- No question. -/
  | known (value : α)
  /-- The question with a number, and the questions that follow "no" and "yes". -/
  | ask (i : Nat) (no yes : Questions α)

/-- The value that the answers lead to, where each question has a chance. -/
def Questions.read {α : Type} (chance : Nat → Nat) : Questions α → Read α
  | known value => return value
  | ask i no yes => do if ← answer (chance i) then yes.read chance else no.read chance

/-! ## The whole frame -/

/-- What the first partition tells about the whole frame. -/
structure Header where
  /-- The chances of the questions about the segment of a macroblock, if there are such questions. -/
  segments : Option (Array Nat)
  /-- Number of the other partitions. -/
  partitions : Nat
  /-- The chances of the questions about values. -/
  chances : Array Nat
  /-- The chance that a macroblock has values, if it may have none. -/
  skip : Option Nat

/-- The chances of segments. -/
def segments : Read (Option (Array Nat)) := do
  let areMapped ← flag
  if ← flag then
    let _ ← flag
    passNumbers 7 4
    passNumbers 6 4
  if !areMapped then return none
  some <$> #[(), (), ()].mapM fun _ => do if ← flag then number 8 else return 255

/-- The beginning of the first partition. -/
def header : Read Header := do
  -- there is one space of colours
  if ← flag then failure
  let _ ← flag
  let segments ← if ← flag then segments else pure none
  -- the filter of edges
  let _ ← number 10
  if ← flag then
    if ← flag then passNumbers 6 8
  let partitions := 1 <<< (← number 2)
  -- the sizes of steps between values
  let _ ← number 7
  passNumbers 4 5
  let _ ← flag
  let chances ← (valueChances.zip changeChances).mapM fun (old, p) => do
    if ← answer p then number 8 else return old
  let skip ← if ← flag then some <$> number 8 else pure none
  return ⟨segments, partitions, chances, skip⟩

/-! ## Modes -/

/-- How a block is foretold from the pixels above it and to its left. -/
inductive Mode
  | average
  | gradient
  | vertical
  | horizontal
  | rightDown
  | verticalRight
  | leftDown
  | verticalLeft
  | horizontalDown
  | horizontalUp
deriving DecidableEq, Repr, Inhabited

namespace Mode

/-- Place of a mode in the table of chances. -/
def index : Mode → Nat
  | average => 0
  | gradient => 1
  | vertical => 2
  | horizontal => 3
  | rightDown => 4
  | verticalRight => 5
  | leftDown => 6
  | verticalLeft => 7
  | horizontalDown => 8
  | horizontalUp => 9

/-- The questions about the mode of a block. -/
def ofBlock : Questions Mode :=
  .ask 0 (.known average) <| .ask 1 (.known gradient) <| .ask 2 (.known vertical) <|
    .ask 3
      (.ask 4 (.known horizontal) (.ask 5 (.known rightDown) (.known verticalRight)))
      (.ask 6 (.known leftDown) <| .ask 7 (.known verticalLeft) <|
        .ask 8 (.known horizontalDown) (.known horizontalUp))

/-- The chances of these questions, by the modes above and to the left. -/
def blockChance (above left : Mode) (i : Nat) : Nat :=
  modeChances.getD ((above.index * 10 + left.index) * 9 + i) 0

/-- The questions about the mode of all blocks of brightness; there is none if each has its own. -/
def ofBrightness : Questions (Option Mode) :=
  .ask 0 (.known none) <|
    .ask 1 (.ask 2 (.known average) (.known vertical)) (.ask 3 (.known horizontal) (.known gradient))

/-- The chances of these questions. -/
def brightnessChance (i : Nat) : Nat := #[145, 156, 163, 128].getD i 0

/-- The questions about the mode of all blocks of colour. -/
def ofColour : Questions Mode :=
  .ask 0 (.known average) <| .ask 1 (.known vertical) <|
    .ask 2 (.known horizontal) (.known gradient)

/-- The chances of these questions. -/
def colourChance (i : Nat) : Nat := #[142, 114, 183].getD i 0

end Mode

/-- The questions about the segment of a macroblock. -/
def segmentOf : Questions Nat :=
  .ask 0 (.ask 1 (.known 0) (.known 1)) (.ask 2 (.known 2) (.known 3))

/-- What the first partition tells about a macroblock. -/
structure Macroblock where
  /-- Whether each block of brightness has a mode of its own. -/
  hasOwnModes : Bool
  /-- Whether there are no values. -/
  isSkipped : Bool
deriving Repr, Inhabited

/-- The modes along the edges of what has been read: those above the next row, four for each
macroblock, and the four to the left of the next macroblock. -/
structure Edge where
  /-- Modes above. -/
  above : Array Mode
  /-- Modes to the left. -/
  left : Array Mode

/-- The mode of a block of a macroblock. -/
def Edge.block (e : Edge) (column x y : Nat) : Read Edge := do
  let i := 4 * column + x
  let mode ← Mode.ofBlock.read (Mode.blockChance (e.above.getD i default) (e.left.getD y default))
  return ⟨e.above.setIfInBounds i mode, e.left.setIfInBounds y mode⟩

/-- The blocks of brightness in a macroblock, in rows: how far right and how far down. -/
def squares (n : Nat) : List (Nat × Nat) :=
  (List.range n).flatMap fun y => (List.range n).map fun x => (x, y)

/-- The modes of a macroblock. -/
def Edge.macroblock (e : Edge) (h : Header) (column : Nat) : Read (Edge × Macroblock) := do
  if let some chances := h.segments then
    let _ ← segmentOf.read (chances.getD · 0)
  let isSkipped ← match h.skip with
    | some p => answer p
    | none => pure false
  let mode ← Mode.ofBrightness.read Mode.brightnessChance
  let e ← match mode with
    | none => (squares 4).foldlM (fun e (x, y) => e.block column x y) e
    | some mode =>
      let above := (List.range 4).foldl (fun a x => a.setIfInBounds (4 * column + x) mode) e.above
      pure ⟨above, Array.replicate 4 mode⟩
  let _ ← Mode.ofColour.read Mode.colourChance
  return (e, ⟨mode.isNone, isSkipped⟩)

/-- The modes of the macroblocks of a row, with what was told before. -/
def Edge.row (e : Edge) (h : Header) (width : Nat) : Read (Edge × Array Macroblock) :=
  (List.range width).foldlM
    (fun (e, ms) column => do
      let (e, m) ← e.macroblock h column
      return (e, ms.push m))
    ({ e with left := Array.replicate 4 .average }, #[])

/-- The macroblocks of a frame, row by row. -/
def modes (h : Header) (width height : Nat) : Read (Array (Array Macroblock)) := do
  let start : Edge := ⟨Array.replicate (4 * width) .average, #[]⟩
  let (_, rows) ← (List.range height).foldlM
    (fun (e, rows) _ => do
      let (e, ms) ← e.row h width
      return (e, rows.push ms))
    (start, #[])
  return rows

/-! ## Values -/

/-- A value of a block, as far as the next questions hang on it. -/
inductive Value
  /-- There are no more values in the block. -/
  | stop
  /-- Zero. -/
  | zero
  /-- One, up to its sign. -/
  | one
  /-- A larger one, up to its sign, with the chances of its further bits. -/
  | larger (further : List Nat)

namespace Value

/-- The questions about a value that is not zero. -/
def ofNonzero : Questions Value :=
  .ask 2 (.known one) <| .ask 3
    (.ask 4 (.known (larger [])) (.ask 5 (.known (larger [])) (.known (larger []))))
    (.ask 6
      (.ask 7 (.known (larger [159])) (.known (larger [165, 145])))
      (.ask 8
        (.ask 9 (.known (larger [173, 148, 140])) (.known (larger [176, 155, 140, 135])))
        (.ask 10 (.known (larger [180, 157, 141, 134, 130]))
          (.known (larger [254, 254, 243, 230, 196, 177, 153, 140, 133, 130, 129])))))

/-- The questions about a value. -/
def ofAny : Questions Value := .ask 1 (.known zero) ofNonzero

/-- The questions about a value or the end of the block; behind a zero the block does not end. -/
def ofNext : Questions Value := .ask 0 (.known stop) ofAny

end Value

/-- The bands of the sixteen places in a block. -/
def bands : Array Nat := #[0, 1, 2, 3, 6, 4, 5, 6, 6, 6, 6, 6, 6, 6, 6, 7]

/-- Chance of a question about a value, by the kind of block, the place in it, and the context. -/
def valueChance (h : Header) (kind place context i : Nat) : Nat :=
  h.chances.getD (((kind * 8 + bands.getD place 0) * 3 + context) * 11 + i) 0

/-- The last `n` values of a block.  Tells whether the block has any, where `hasAny` tells it of the
values before. -/
def values (h : Header) (kind : Nat) :
    Nat → Questions Value → (context : Nat) → (hasAny : Bool) → Read Bool
  | 0, _, _, hasAny => return hasAny
  | n + 1, questions, context, hasAny => do
    match ← questions.read (valueChance h kind (15 - n) context) with
    | .stop => return hasAny
    | .zero => values h kind n Value.ofAny 0 true
    | .one =>
      let _ ← flag
      values h kind n Value.ofNext 1 true
    | .larger further =>
      for p in further do
        let _ ← answer p
      let _ ← flag
      values h kind n Value.ofNext 2 true

/-- For each macroblock of a row and to the left of the next one, nine marks: whether the block next
to the edge has values, first for the averages of the blocks of brightness, then for these blocks,
and then for each of two colours. -/
structure Marks where
  /-- Marks above. -/
  above : Array Nat
  /-- Marks to the left. -/
  left : Array Nat

/-- Number of marks at an edge. -/
def markCount : Nat := 9

/-- The blocks of a macroblock: the kind of each, and the place of its mark above and to the left. -/
def Macroblock.blocks (m : Macroblock) : List (Nat × Nat × Nat) :=
  let area (kind first n : Nat) := (squares n).map fun (x, y) => (kind, first + x, first + y)
  (if m.hasOwnModes then area 3 1 4 else (1, 0, 0) :: area 0 1 4) ++ area 2 5 2 ++ area 2 7 2

/-- The values of a block. -/
def Marks.block (s : Marks) (h : Header) (column : Nat) : Nat × Nat × Nat → Read Marks
  | (kind, above, left) => do
    let i := markCount * column + above
    let context := s.above.getD i 0 + s.left.getD left 0
    let n := if kind = 0 then 15 else 16
    let mark := if ← values h kind n Value.ofNext context false then 1 else 0
    return ⟨s.above.setIfInBounds i mark, s.left.setIfInBounds left mark⟩

/-- Marks a macroblock without values.  Averages keep their mark where a macroblock has none. -/
def Marks.skip (s : Marks) (m : Macroblock) (column : Nat) : Marks :=
  ((List.range markCount).drop (if m.hasOwnModes then 1 else 0)).foldl
    (fun s i =>
      ⟨s.above.setIfInBounds (markCount * column + i) 0, s.left.setIfInBounds i 0⟩) s

/-- The values of the macroblocks of a row. -/
def Marks.row (s : Marks) (h : Header) (row : Array Macroblock) : Read Marks :=
  row.zipIdx.foldlM
    (fun s (m, column) =>
      if m.isSkipped then return s.skip m column
      else m.blocks.foldlM (fun s b => s.block h column b) s)
    { s with left := Array.replicate markCount 0 }

/-- Whether the values of some rows are there; the partition of the next row comes first. -/
def holdsValues (h : Header) : Marks → List Reader → List (Array Macroblock) → Bool
  | _, _, [] => true
  | _, [], _ => false
  | s, r :: rs, row :: rows =>
    match (s.row h row).run r with
    | none => false
    | some (s, r) => holdsValues h s (rs ++ [r]) rows

/-! ## Frames -/

/-- The other partitions: their sizes, three bytes each, are at `sizes`, and the partitions follow
each other from `start` on.  The size of the last one is not written. -/
def partitions? (data : Array UInt8) : Nat → (sizes start : Nat) → Option (List (Array UInt8))
  | 0, _, _ => some []
  | 1, _, start => some [data.extract start data.size]
  | n + 2, sizes, start => do
    let stop := start + Bitmap.littleEndian (data.extract sizes (sizes + 3)).toList
    if data.size < stop then failure
    return data.extract start stop :: (← partitions? data (n + 1) (sizes + 3) stop)

/-- The size in front of the first partition, and the size of that partition. -/
def front? (data : Array UInt8) : Option (Bitmap × Nat) := do
  let [t₀, t₁, t₂, 0x9D, 0x01, 0x2A, w₀, w₁, h₀, h₁] := (data.extract 0 10).toList | failure
  let tag := Bitmap.littleEndian [t₀, t₁, t₂]
  -- an odd tag is that of a frame that builds on others
  if tag % 2 = 1 then failure
  let size ← Bitmap.ofSize? (Bitmap.littleEndian [w₀, w₁] % 0x4000)
    (Bitmap.littleEndian [h₀, h₁] % 0x4000)
  return (size, tag / 0x20)

/-- The size of the frame in some bytes, before the frame is read. -/
def size? (data : Array UInt8) : Option Bitmap := (front? data).map (·.1)

/-- The picture in some bytes. -/
def decode? (data : Array UInt8) : Option Bitmap := do
  let (size, length) ← front? data
  let start := 10 + length
  if data.size < start then failure
  let width := (size.width + 15) / 16
  let height := (size.height + 15) / 16
  let (h, r) ← header.run (.ofBytes (data.extract 10 start))
  let parts ← partitions? data h.partitions start (start + 3 * (h.partitions - 1))
  let (rows, _) ← (modes h width height).run r
  let marks : Marks := ⟨Array.replicate (markCount * width) 0, #[]⟩
  if holdsValues h marks (parts.map .ofBytes) rows.toList then return size else failure

end PictureIndex.Webp.KeyFrame
