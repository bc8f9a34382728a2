import PictureIndex.Bitmap
import PictureIndex.Bitmap.PrefixCode
/-!
# Inflating compressed data

The compressed form of pixel data: a sequence of blocks of bits, each stored as it is or written
with two prefix codes, one for bytes and lengths of repetitions and one for distances.  The bits
of a byte are read from the lowest.

The size of the inflated data is known beforehand.  Reading stops as soon as a further byte would
exceed it (`Stop.full`), and what is wrong behind that place does not matter.  Reading that ends
the last block needs the four bytes of a check sum behind it, whatever they are.
-/

namespace PictureIndex.Inflate

/-- Why reading stops. -/
inductive Stop
  /-- The data is not in the compressed form. -/
  | corrupt
  /-- The data has come to its end. -/
  | truncated
  /-- All wanted bytes are there. -/
  | full
deriving DecidableEq, Repr

/-- A place in the compressed data, and the data inflated so far. -/
structure Reader where
  /-- The compressed bytes. -/
  input : Array UInt8
  /-- Number of bits read. -/
  position : Nat
  /-- The inflated bytes. -/
  output : Array UInt8
  /-- Number of bytes wanted. -/
  wanted : Nat

/-- Whether all wanted bytes are there. -/
def Reader.isFull (r : Reader) : Bool := r.wanted ≤ r.output.size

/-- A step of reading. -/
abbrev Read (α : Type) := ExceptT Stop (StateM Reader) α

/-- The next bit. -/
def bit : Read Nat := do
  let r ← get
  match Bitmap.lowBit? r.input r.position with
  | none => throw .truncated
  | some b =>
    set { r with position := r.position + 1 }
    return b

/-- The next `n` bits, the first one lowest. -/
def bits : Nat → Read Nat
  | 0 => return 0
  | n + 1 => do
    let low ← bit
    let high ← bits n
    return low + 2 * high

/-- Stops where no further byte is wanted. -/
def wantMore : Read Unit := do
  if (← get).isFull then throw .full

/-- One inflated byte. -/
def emit (b : UInt8) : Read Unit := do
  wantMore
  modify fun r => { r with output := r.output.push b }

/-! ## Prefix codes -/

/-- The next symbol of a code. -/
def symbol (c : PrefixCode) : Read Nat := do
  match ← c.read? bit with
  | some s => return s
  | none => throw .corrupt

/-- Whether the lengths are those of a code for distances: it may also have no word, or one of
length one. -/
def isDistanceCode (lengths : List Nat) : Bool :=
  let words := lengths.filter (· ≠ 0)
  PrefixCode.isComplete lengths || words.isEmpty || words = [1]

/-! ## Blocks -/

/-- Least length and number of further bits of the length symbols, from 257. -/
def lengthTable : Array (Nat × Nat) :=
  #[(3, 0), (4, 0), (5, 0), (6, 0), (7, 0), (8, 0), (9, 0), (10, 0), (11, 1), (13, 1), (15, 1),
    (17, 1), (19, 2), (23, 2), (27, 2), (31, 2), (35, 3), (43, 3), (51, 3), (59, 3), (67, 4),
    (83, 4), (99, 4), (115, 4), (131, 5), (163, 5), (195, 5), (227, 5), (258, 0)]

/-- Least distance and number of further bits of the distance symbols. -/
def distanceTable : Array (Nat × Nat) :=
  #[(1, 0), (2, 0), (3, 0), (4, 0), (5, 1), (7, 1), (9, 2), (13, 2), (17, 3), (25, 3), (33, 4),
    (49, 4), (65, 5), (97, 5), (129, 6), (193, 6), (257, 7), (385, 7), (513, 8), (769, 8),
    (1025, 9), (1537, 9), (2049, 10), (3073, 10), (4097, 11), (6145, 11), (8193, 12),
    (12289, 12), (16385, 13), (24577, 13)]

/-- The value of a symbol with further bits. -/
def extended (table : Array (Nat × Nat)) (i : Nat) : Read Nat :=
  match table[i]? with
  | none => throw .corrupt
  | some (base, extra) => do return base + (← bits extra)

/-- Repeats `length` bytes from `distance` bytes back. -/
def copy (distance : Nat) : Nat → Read Unit
  | 0 => return ()
  | n + 1 => do
    let r ← get
    if r.output.size < distance then throw .corrupt
    match r.output[r.output.size - distance]? with
    | none => throw .corrupt
    | some b =>
      emit b
      copy distance n

/-- The symbols of a block up to its end. -/
def compressed (literals distances : PrefixCode) : Nat → Read Unit
  | 0 => throw .corrupt
  | fuel + 1 => do
    let s ← symbol literals
    -- the end of the block, a byte, or a repetition
    if s = 256 then return ()
    wantMore
    if s < 256 then emit (UInt8.ofNat s)
    else
      let length ← extended lengthTable (s - 257)
      let distance ← extended distanceTable (← symbol distances)
      copy distance length
    compressed literals distances fuel

/-- The next `n` bytes as they are. -/
def storedBytes : Nat → Read Unit
  | 0 => return ()
  | n + 1 => do
    wantMore
    emit (UInt8.ofNat (← bits 8))
    storedBytes n

/-- A block of bytes as they are. -/
def stored : Read Unit := do
  -- the block starts at the next whole byte
  modify fun r => { r with position := (r.position + 7) / 8 * 8 }
  let n ← bits 16
  let m ← bits 16
  if n + m ≠ 0xFFFF then throw .corrupt
  storedBytes n

/-- The lengths of the words of both codes of a block, in turn written with a code. -/
def codeLengths (c : PrefixCode) (wanted : Nat) : Nat → List Nat → Read (List Nat)
  | 0, _ => throw .corrupt
  | fuel + 1, reversed => do
    if wanted < reversed.length then throw .corrupt
    if wanted = reversed.length then return reversed.reverse
    let s ← symbol c
    -- 16 repeats the length before it, 17 and 18 are runs of zeros
    if s < 16 then codeLengths c wanted fuel (s :: reversed)
    else if s = 16 then
      match reversed with
      | [] => throw .corrupt
      | last :: _ => codeLengths c wanted fuel (List.replicate (3 + (← bits 2)) last ++ reversed)
    else
      let n ← if s = 17 then do pure (3 + (← bits 3)) else do pure (11 + (← bits 7))
      codeLengths c wanted fuel (List.replicate n 0 ++ reversed)

/-- The order in which the lengths of the code for lengths are written. -/
def lengthOrder : List Nat := [16, 17, 18, 0, 8, 7, 9, 6, 10, 5, 11, 4, 12, 3, 13, 2, 14, 1, 15]

/-- The two codes at the start of a block.  The first one has to have a word for the block's end. -/
def codes : Read (PrefixCode × PrefixCode) := do
  let literals := 257 + (← bits 5)
  let distances := 1 + (← bits 5)
  let n := 4 + (← bits 4)
  if 286 < literals || 30 < distances then throw .corrupt
  let written ← (lengthOrder.take n).mapM fun i => do return (i, ← bits 3)
  let lengths := (List.range 19).map fun i => (written.lookup i).getD 0
  if !PrefixCode.isComplete lengths then throw .corrupt
  let all ← codeLengths (PrefixCode.ofLengths lengths) (literals + distances) 400 []
  let first := all.take literals
  let second := all.drop literals
  if first[256]? = some 0 || !PrefixCode.isComplete first || !isDistanceCode second then throw .corrupt
  return (PrefixCode.ofLengths first, PrefixCode.ofLengths second)

/-- The codes of a block that names none. -/
def fixedCodes : PrefixCode × PrefixCode :=
  let literals := List.replicate 144 8 ++ List.replicate 112 9 ++ List.replicate 24 7
    ++ List.replicate 8 8
  (PrefixCode.ofLengths literals, PrefixCode.ofLengths (List.replicate 32 5))

/-- All blocks. -/
def blocks : Nat → Read Unit
  | 0 => throw .corrupt
  | fuel + 1 => do
    let last ← bit
    let kind ← bits 2
    let size := (← get).input.size * 8 + 1
    if kind = 0 then stored
    else if kind = 1 then compressed fixedCodes.1 fixedCodes.2 size
    else if kind = 2 then
      let (literals, distances) ← codes
      compressed literals distances size
    else throw .corrupt
    if last = 0 then blocks fuel

/-- The first `wanted` bytes of a compressed stream with its two bytes in front. -/
def inflate? (data : Array UInt8) (wanted : Nat) : Option (Array UInt8) := do
  let a ← data[0]?
  let b ← data[1]?
  if a.toNat % 16 ≠ 8 || 7 < a.toNat / 16 || (a.toNat * 256 + b.toNat) % 31 ≠ 0
      || b.toNat / 32 % 2 = 1 then failure
  let (stop, r) := (blocks (data.size * 8 + 1)).run.run ⟨data, 16, #[], wanted⟩
  let reached := match stop with
    | .error .corrupt => false
    | .error .truncated | .error .full => r.isFull
    -- the check sum starts at the next whole byte
    | .ok () => r.isFull && (r.position + 7) / 8 + 4 ≤ data.size
  if reached then return r.output else failure

end PictureIndex.Inflate
