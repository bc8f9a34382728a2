import PictureIndex.Bitmap
import PictureIndex.Bitmap.PrefixCode
/-!
# Segments of JPEG pictures

A JPEG picture is a sequence of segments, each started by `FF` and a marker and, with few
exceptions, followed by its length.  The segments in front of the pixels tell the size of the
picture and its components (`Frame`), and define quantisation tables and prefix codes.  A scan
segment names the components whose pixels follow it.

`Header` is what the segments told so far, and `Header.segment?` adds one more.  What other
segments hold does not matter, but each of them has to be as long as its kind asks for.
-/

namespace PictureIndex.Jpeg

/-- One component of the pixels, such as their brightness. -/
structure Component where
  /-- The number by which scans name it. -/
  id : UInt8
  /-- Its samples in a row of a unit of pixels. -/
  across : Nat
  /-- Its samples in a column of a unit of pixels. -/
  down : Nat
  /-- Its quantisation table. -/
  quantiser : Nat
  /-- Its codes for the first and for the other values of a block, as the last scan chose them. -/
  codes : Nat × Nat
deriving Repr, Inhabited

/-- Size and components of a picture. -/
structure Frame where
  /-- Width in pixels. -/
  width : Nat
  /-- Height in pixels. -/
  height : Nat
  /-- Whether the values of a block come in several scans. -/
  progressive : Bool
  /-- The components. -/
  components : List Component
deriving Repr, Inhabited

/-- How the components make colours. -/
inductive Colours
  /-- Brightness alone. -/
  | brightness
  /-- Brightness and two differences, or three colours. -/
  | three
  /-- Four inks. -/
  | inks
  /-- Brightness, two differences and black ink. -/
  | brightnessAndBlack
deriving DecidableEq, Repr, Inhabited

/-- Number of components that are needed. -/
def Colours.count : Colours → Nat
  | brightness => 1
  | three => 3
  | inks | brightnessAndBlack => 4

/-- One scan: the places of its components in the frame. -/
structure Scan where
  /-- The places, in the order of the scan. -/
  parts : List Nat
  /-- The first and the last value of each block that the scan holds. -/
  range : Nat × Nat
deriving Repr, Inhabited

/-- What the segments told. -/
structure Header where
  /-- Size and components, once they are known. -/
  frame : Option Frame
  /-- How components make colours. -/
  colours : Colours
  /-- The quantisation tables that are defined. -/
  quantisers : List Nat
  /-- The codes for the first value of a block, under their numbers. -/
  firstCodes : List (Nat × PrefixCode)
  /-- The codes for the other values of a block, under their numbers. -/
  otherCodes : List (Nat × PrefixCode)
  /-- Number of units between restarts; zero if there are none. -/
  interval : Nat
  /-- The scan begun last. -/
  scan : Scan
deriving Repr, Inhabited

/-- The marker of a scan segment. -/
def scanMarker : UInt8 := 0xDA

/-- The marker of the end of the picture. -/
def endMarker : UInt8 := 0xD9

/-- Whether a marker is that of a restart. -/
def isRestart (m : UInt8) : Bool := 0xD0 ≤ m && m ≤ 0xD7

namespace Header

/-- The header before any segment. -/
def start : Header := ⟨none, .three, [], [], [], 0, ⟨[], (0, 0)⟩⟩

/-- Quantisation tables, and codes of one kind, have numbers below this. -/
def tableCount : Nat := 4

/-! ## Kinds of segments

Each function gets the bytes behind the marker and tells the header with the segment added and
what follows. -/

/-- A number of two bytes in front of some others. -/
def number? : List UInt8 → Option (Nat × List UInt8)
  | a :: b :: rest => some (Bitmap.bigEndian [a, b], rest)
  | _ => none

/-- The bytes of a segment's length and the bytes after that length. -/
def length? (bs : List UInt8) : Option (Nat × List UInt8) :=
  (number? bs).filter fun (length, _) => 2 ≤ length

/-- Passes over a segment of which nothing is needed; it may end behind the data.  If it is longer
than `beyond`, it has to have `atLeast` bytes. -/
def pass? (h : Header) (beyond atLeast : Nat) (bs : List UInt8) : Option (Header × List UInt8) := do
  let (length, rest) ← length? bs
  if beyond < length && rest.length < atLeast then failure
  return (h, rest.drop (length - 2))

/-- Passes over a segment that has to be there as a whole. -/
def passWhole? (h : Header) (bs : List UInt8) : Option (Header × List UInt8) := do
  let (length, rest) ← length? bs
  if rest.length < length - 2 then failure
  return (h, rest.drop (length - 2))

/-- Whether a component may have so many samples in a row or column of a unit. -/
def isSampling (n : Nat) : Bool := [1, 2, 4, 8].contains n

/-- The components in triples of bytes. -/
def components? : Nat → List UInt8 → Option (List Component × List UInt8)
  | 0, bs => some ([], bs)
  | n + 1, id :: sampling :: quantiser :: rest => do
    let across := sampling.toNat / 16
    let down := sampling.toNat % 16
    if tableCount ≤ quantiser.toNat || !isSampling across || !isSampling down then failure
    let (cs, rest) ← components? n rest
    return (⟨id, across, down, quantiser.toNat, (0, 0)⟩ :: cs, rest)
  | _, _ => none

/-- A frame segment.  There is one, of eight bits a sample and at most four components. -/
def frame? (h : Header) (progressive : Bool) (bs : List UInt8) : Option (Header × List UInt8) := do
  if h.frame.isSome then failure
  let (length, rest) ← number? bs
  let [precision, h₁, h₀, w₁, w₀, count] := rest.take 6 | failure
  let height := Bitmap.bigEndian [h₁, h₀]
  let width := Bitmap.bigEndian [w₁, w₀]
  let n := count.toNat
  if precision ≠ 8 || width = 0 || height = 0 || n = 0 || length ≠ 8 + 3 * n || 4 < n then failure
  let (cs, rest) ← components? n (rest.drop 6)
  let colours :=
    if n = 1 then .brightness else if n = 4 && h.colours = .three then .inks else h.colours
  return ({ h with frame := some ⟨width, height, progressive, cs⟩, colours := colours }, rest)

/-- The quantisation tables in `length` bytes. -/
def quantisers? (h : Header) : Nat → Nat → List UInt8 → Option (Header × List UInt8)
  | _, 0, bs => some (h, bs)
  | fuel + 1, length, info :: rest =>
    let size := 64 * (info.toNat / 16 + 1)
    if length < size + 1 || 2 ≤ info.toNat / 16 || tableCount ≤ info.toNat % 16
        || rest.length < size then none
    else
      quantisers? { h with quantisers := info.toNat % 16 :: h.quantisers } fuel (length - size - 1)
        (rest.drop size)
  | _, _, _ => none

/-- Whether so many words of each length fit into a code that leaves the word of ones alone. -/
def isLegal (counts : List Nat) : Bool := go 0 2 counts
where
  go (code limit : Nat) : List Nat → Bool
    | [] => true
    | n :: ns => code + n < limit && go (2 * (code + n)) (2 * limit) ns

/-- The codes in `length` bytes.  The symbols for first values are numbers of bits below 16. -/
def codes? (h : Header) : Nat → Nat → List UInt8 → Option (Header × List UInt8)
  | _, 0, bs => some (h, bs)
  | fuel + 1, length, info :: rest =>
    let kind := info.toNat / 16
    let index := info.toNat % 16
    let counts := (rest.take 16).map (·.toNat)
    let total := counts.sum
    let symbols := ((rest.drop 16).take total).map (·.toNat)
    let code : PrefixCode := ⟨counts, symbols.toArray⟩
    if length ≤ 16 || tableCount ≤ index || 1 < kind || rest.length < 16 + total || 256 < total
        || length < 17 + total || !isLegal counts || (kind = 0 && symbols.any (15 < ·)) then none
    else
      let h := if kind = 0 then { h with firstCodes := (index, code) :: h.firstCodes }
        else { h with otherCodes := (index, code) :: h.otherCodes }
      codes? h fuel (length - 17 - total) (rest.drop (16 + total))
  | _, _, _ => none

/-- The components of a scan in pairs of bytes: their places and the frame with their codes. -/
def parts? : Nat → Frame → List UInt8 → Option (List Nat × Frame × List UInt8)
  | 0, f, bs => some ([], f, bs)
  | n + 1, f, id :: codes :: rest => do
    let i ← f.components.findIdx? (·.id = id)
    let choice := (codes.toNat / 16, codes.toNat % 16)
    let f := { f with components := f.components.modify i ({ · with codes := choice }) }
    let (is, f, rest) ← parts? n f rest
    if is.contains i then failure
    return (i :: is, f, rest)
  | _, _, _ => none

/-- A scan segment. -/
def scan? (h : Header) (bs : List UInt8) : Option (Header × List UInt8) := do
  let frame ← h.frame
  let (length, rest) ← number? bs
  let count :: rest := rest | failure
  let n := count.toNat
  if length ≠ 6 + 2 * n || n = 0 || 4 < n then failure
  let (parts, frame, rest) ← parts? n frame rest
  let first :: last :: steps :: rest := rest | failure
  if 63 < first.toNat || 63 < last.toNat || 13 < steps.toNat / 16 || 13 < steps.toNat % 16 then failure
  return ({ h with frame := some frame, scan := ⟨parts, (first.toNat, last.toNat)⟩ }, rest)

/-- The letters with which a segment about colours starts. -/
def coloursTag : List UInt8 := [0x41, 0x64, 0x6F, 0x62, 0x65]

/-- A segment that may tell how components make colours. -/
def colours? (h : Header) (bs : List UInt8) : Option (Header × List UInt8) := do
  let (length, rest) ← number? bs
  if length < 14 || rest.length < length - 2 then failure
  let h ← if rest.take 5 ≠ coloursTag then pure h
    else match (rest.drop 11).head? with
      | some 0 => pure { h with colours := .inks }
      | some 1 => pure { h with colours := .three }
      | some 2 => pure { h with colours := .brightnessAndBlack }
      | _ => failure
  return (h, rest.drop (length - 2))

/-- A segment with the interval between restarts. -/
def interval? (h : Header) (bs : List UInt8) : Option (Header × List UInt8) := do
  let (length, rest) ← number? bs
  let (interval, rest) ← number? rest
  if length ≠ 4 then failure
  return ({ h with interval := interval }, rest)

/-! ## All segments -/

/-- The header with the segment of a marker added, and what follows the segment.  Frames of other
kinds cannot be read, nor can the end of a picture be passed. -/
def segment? (h : Header) (m : UInt8) (bs : List UInt8) : Option (Header × List UInt8) :=
  if m = 0xC0 ∨ m = 0xC1 then h.frame? false bs
  else if m = 0xC2 then h.frame? true bs
  else if m = 0xC4 then do
    let (length, rest) ← length? bs
    codes? h rest.length (length - 2) rest
  else if m = 0xDB then do
    let (length, rest) ← length? bs
    quantisers? h rest.length (length - 2) rest
  else if m = scanMarker then h.scan? bs
  else if m = 0xDD then h.interval? bs
  else if m = 0xE0 then h.pass? 5 5 bs
  else if m = 0xE1 ∨ m = 0xE2 then h.passWhole? bs
  else if m = 0xED then h.pass? 15 13 bs
  else if m = 0xEE then h.colours? bs
  else if m = endMarker || m = 0xDC || (0xC0 ≤ m && m ≤ 0xCF && m ≠ 0xC8) then none
  else h.pass? 0 0 bs

/-- The header up to the first scan, and what follows that scan's segment; `last` is the byte
before.  Bytes between segments are passed over, as are `FF` and zero bytes between `FF` and its
marker, where only the last of these has to be `FF`. -/
def read? (h : Header) (last : UInt8) : Nat → List UInt8 → Option (Header × List UInt8)
  | 0, _ => none
  | fuel + 1, bs =>
    let isFill (b : UInt8) : Bool := b = 0xFF || b = 0
    let fill := if last = 0xFF then bs.takeWhile isFill else []
    match bs.drop fill.length with
    | [] => none
    | m :: rest =>
      if fill.getLast?.getD last ≠ 0xFF then read? h m fuel rest
      else match h.segment? m rest with
        | none => none
        | some (h, rest) => if m = scanMarker then some (h, rest) else read? h m fuel rest

end Header

end PictureIndex.Jpeg
