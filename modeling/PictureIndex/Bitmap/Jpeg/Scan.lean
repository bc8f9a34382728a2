import PictureIndex.Bitmap.Jpeg.Header
/-!
# Scans of JPEG pictures

Behind a scan segment come the values of blocks of eight times eight samples, written bit by bit
with prefix codes.  `FF` followed by zero is a byte `FF` of this data; `FF` followed by anything
else is a marker, at which the data ends.

Broken or missing data does not spoil a picture: the rest of it is grey (`End.stands`).  What
spoils it is a segment within the data that is not well formed (`End.lost`).  A marker comes to
notice only when the data in front of it is loaded, four bytes ahead, and it is looked at after
each row of units.
-/

namespace PictureIndex.Jpeg

/-- The data of a scan up to the next marker. -/
structure Stream where
  /-- The bytes of the data. -/
  bytes : Array UInt8
  /-- The marker at which it ends, unless it ends with the file. -/
  marker : Option UInt8
  /-- What follows the marker. -/
  rest : List UInt8
  /-- Number of bytes loaded. -/
  loaded : Nat
  /-- Number of bits used up. -/
  position : Nat
  /-- Whether the end of the data has come to notice. -/
  found : Bool
deriving Repr, Inhabited

namespace Stream

/-- The bytes in front of the next marker, the marker, and what follows it. -/
def split : Nat → List UInt8 → List UInt8 × Option UInt8 × List UInt8
  | fuel + 1, b :: bs =>
    if b ≠ 0xFF then
      let (front, m, rest) := split fuel bs
      (b :: front, m, rest)
    else
      match bs.dropWhile (· = 0xFF) with
      | [] => ([b], none, [])
      | m :: rest =>
        if m ≠ 0 then ([], some m, rest)
        else
          let (front, m, rest) := split fuel rest
          (b :: front, m, rest)
  | _, _ => ([], none, [])

/-- The data at the start of some bytes. -/
def ofBytes (bs : List UInt8) : Stream :=
  let (front, m, rest) := split bs.length bs
  ⟨front.toArray, m, rest, 0, 0, false⟩

/-- A bit of the data; behind its end there are zeros. -/
def bitAt (s : Stream) (i : Nat) : Nat :=
  ((s.bytes[i / 8]?).getD 0).toNat >>> (7 - i % 8) % 2

end Stream

/-- How reading of a scan ends before its rows are read. -/
inductive End
  /-- The picture is there. -/
  | stands
  /-- There is no picture. -/
  | lost
  /-- Another scan follows. -/
  | nextScan (h : Header) (bs : List UInt8)
deriving Inhabited

/-- A step of reading a scan. -/
abbrev Read (α : Type) := ExceptT End (StateM Stream) α

/-- Whether a marker is one that can be told. -/
def isKnown (m : UInt8) : Bool := (0xC0 ≤ m && m ≤ 0xEF && m ≠ 0xC8) || m = 0xFE

/-! ## Blocks -/

/-- Loads data, so that a symbol and its bits can be read. -/
def load : Read Unit := do
  let s ← get
  if !s.found && 8 * s.loaded < s.position + 32 then
    if s.loaded + 4 ≤ s.bytes.size then set { s with loaded := s.loaded + 4 }
    else
      set { s with loaded := s.bytes.size, found := true }
      -- no more markers can come where the file ends, or where one cannot be told
      if !s.marker.any isKnown then throw .stands

/-- The next bit. -/
def bit : Read Nat := do
  let s ← get
  set { s with position := s.position + 1 }
  return s.bitAt s.position

/-- Passes over some bits. -/
def skip (n : Nat) : Read Unit := modify fun s => { s with position := s.position + n }

/-- The next symbol of a code. -/
def symbol (c : PrefixCode) : Read Nat := do
  load
  match ← c.read? bit with
  | some s => return s
  | none => throw .stands

/-- The values of a block behind the first `pos` ones. -/
def values (c : PrefixCode) : Nat → Nat → Read Unit
  | 0, _ => return ()
  | fuel + 1, pos => do
    if 64 ≤ pos then return ()
    let s ← symbol c
    -- the upper half is a number of zeros, the lower half the size of the value behind them
    if s % 16 ≠ 0 then
      skip (s % 16)
      values c fuel (pos + s / 16 + 1)
    else if s / 16 = 15 then values c fuel (pos + 16)

/-- A block. -/
def block (first other : PrefixCode) : Read Unit := do
  skip (← symbol first)
  values other 64 1

/-! ## Rows of units -/

/-- Number of units in a row, number of rows, and the blocks of each component in a unit.  Where
brightness stands alone, a unit is one block. -/
structure Layout where
  /-- Units in a row. -/
  width : Nat
  /-- Rows. -/
  height : Nat
  /-- Codes and number of blocks of each component of the scan. -/
  parts : List (PrefixCode × PrefixCode × Nat)

/-- The layout of a scan. -/
def Layout.of (h : Header) (f : Frame) : Layout :=
  let alone := h.colours = .brightness
  let most (g : Component → Nat) : Nat := if alone then 1 else (f.components.map g).foldl max 1
  let units (size samples : Nat) : Nat := (size + 8 * samples - 1) / (8 * samples)
  { width := units f.width (most (·.across))
    height := units f.height (most (·.down))
    parts := h.scan.parts.filterMap fun i => do
      let c ← f.components[i]?
      let first ← h.firstCodes.lookup c.codes.1
      let other ← h.otherCodes.lookup c.codes.2
      return (first, other, if alone then 1 else c.across * c.down) }

/-- Does something a number of times. -/
def times (act : Read Unit) : Nat → Read Unit
  | 0 => return ()
  | n + 1 => do
    act
    times act n

/-- What happens when a restart is due. -/
def restart : Read Unit := do
  let s ← get
  if s.found then
    match s.marker with
    | none => throw .stands
    | some m =>
      if isRestart m then set (Stream.ofBytes s.rest)
      else throw (if m = endMarker then .stands else .lost)

/-- The units of a row, where `left` of them come before the next restart.  Tells how many come
before it afterwards. -/
def units (interval : Nat) (parts : List (PrefixCode × PrefixCode × Nat)) :
    Nat → Nat → Read Nat
  | 0, left => return left
  | n + 1, left => do
    for (first, other, blocks) in parts do times (block first other) blocks
    if left = 1 then
      restart
      units interval parts n interval
    else units interval parts n (left - 1)

/-- What a marker does that is noticed after a row: the header after it. -/
def mark (h : Header) : Read Header := do
  let s ← get
  match s.found, s.marker with
  | true, some m =>
    if m = endMarker || (isRestart m && h.interval = 0) then throw .stands
    else if isRestart m then return h
    else
      match h.segment? m s.rest with
      | none => throw .lost
      | some (h, rest) =>
        if m = scanMarker then throw (.nextScan h rest)
        set { s with rest := rest }
        return h
  | _, _ => return h

/-- The rows of a scan. -/
def rows (l : Layout) : Nat → Nat → Header → Read Unit
  | 0, _, _ => return ()
  | n + 1, left, h => do
    let left ← units h.interval l.parts l.width left
    let h ← mark h
    rows l n left h

/-! ## Scans -/

/-- Whether there is a picture in the scans from here on, each of which holds whole blocks.  Once a
scan has held all components no other one counts. -/
def holdsBlocks : Nat → Header → List UInt8 → Bool
  | 0, _, _ => false
  | fuel + 1, h, bs =>
    match h.frame with
    | none => false
    | some f =>
      let l := Layout.of h f
      match ((rows l l.height h.interval h).run (Stream.ofBytes bs)).1 with
      | .ok () | .error .stands => true
      | .error .lost => false
      | .error (.nextScan next rest) =>
        if h.scan.parts.length = f.components.length then true else holdsBlocks fuel next rest

/-- Number of scans that a picture may have. -/
def mostScans : Nat := 100

/-- Whether there is a picture in the scans from here on, each of which holds some values of the
blocks.  At least one marker has to follow the first scan. -/
def holdsValues (scans : Nat) : Nat → Header → List UInt8 → Bool
  | 0, _, _ => false
  | fuel + 1, h, bs =>
    let s := Stream.ofBytes bs
    match s.marker with
    | none => scans ≠ 1
    | some m =>
      if m = endMarker || !isKnown m then true
      else if isRestart m then holdsValues scans fuel h s.rest
      else match h.segment? m s.rest with
        | none => false
        | some (h, rest) =>
          if m ≠ scanMarker then holdsValues scans fuel h rest
          else if mostScans ≤ scans then false
          else holdsValues (scans + 1) fuel h rest

end PictureIndex.Jpeg
