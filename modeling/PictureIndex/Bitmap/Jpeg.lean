import PictureIndex.Bitmap.Jpeg.Scan
/-!
# JPEG pictures

A JPEG picture is there once its segments up to the first scan are well formed, everything that
they refer to is defined, and no broken segment comes to notice behind them.
-/

namespace PictureIndex.Jpeg

/-- The most bytes that a picture may unpack to. -/
def mostBytes : Nat := 512 * 1024 * 1024

/-- Whether the samples of the components fit together: either each has one in a unit, or the first
one has the most. -/
def Frame.fits (f : Frame) : Bool :=
  match f.components with
  | [] | [_] => true
  | first :: others => others.all fun c => c.across ≤ first.across && c.down ≤ first.down

/-- Whether there are as many components as the colours need.  Three inks are three colours. -/
def Header.makesColours (h : Header) (f : Frame) : Bool :=
  let n := f.components.length
  h.colours.count ≤ n || (n = 3 && h.colours = .inks)

/-- Whether all quantisation tables are defined, and the codes that are needed from the start. -/
def Header.isDefined (h : Header) (f : Frame) : Bool :=
  f.components.all fun c => h.quantisers.contains c.quantiser
    && (f.progressive
      || ((h.firstCodes.lookup c.codes.1).isSome && (h.otherCodes.lookup c.codes.2).isSome))

/-- The picture in a file. -/
def decode? (bs : List UInt8) : Option Bitmap := do
  if bs.take 2 ≠ [0xFF, 0xD8] then failure
  let (h, rest) ← Header.start.read? 0 bs.length (bs.drop 2)
  let f ← h.frame
  if !h.isDefined f || !h.makesColours f || !f.fits then failure
  if mostBytes < f.width * f.height * (if f.components.length = 1 then 1 else 3) then failure
  let held :=
    if f.progressive then holdsValues 1 (rest.length + 1) h rest
    else holdsBlocks (rest.length + 1) h rest
  if held then Bitmap.ofSize? f.width f.height else failure

end PictureIndex.Jpeg
