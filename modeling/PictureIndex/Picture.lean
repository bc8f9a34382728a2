import PictureIndex.Path
/-!
# Kinds of pictures

A picture is recognised by its first bytes.  Thirty bytes decide: a JPEG picture starts with
`FF D8 FF` and `E0` or `E1`, a PNG picture with its signature of eight bytes, and a WebP picture
has `RIFF` in front and `WEBP` at place 8.  A WebP picture is animated if its first chunk is
`VP8X` and the animation flag is set in the byte at place 20.  Animated pictures are recognised,
but they are not indexed.
-/

namespace PictureIndex

/-- What a file's extension and header make of it. -/
inductive PictureType
  | notImage
  | jpeg
  | png
  | staticWebp
  | animatedWebp
deriving DecidableEq, Repr, Inhabited

namespace PictureType

/-- Whether pictures of this type are indexed. -/
def isIndexable : PictureType → Bool
  | jpeg | png | staticWebp => true
  | notImage | animatedWebp => false

/-- The types with their written names. -/
def names : List (String × PictureType) :=
  [("NotImage", notImage), ("Jpeg", jpeg), ("Png", png), ("StaticWebp", staticWebp),
    ("AnimatedWebp", animatedWebp)]

/-- The written name of a type. -/
def name : PictureType → String
  | notImage => "NotImage"
  | jpeg => "Jpeg"
  | png => "Png"
  | staticWebp => "StaticWebp"
  | animatedWebp => "AnimatedWebp"

/-- Number of bytes that are read to tell the type. -/
def headerLength : Nat := 30

/-- The first eight bytes of a PNG picture. -/
def pngSignature : List UInt8 := [0x89, 0x50, 0x4E, 0x47, 0x0D, 0x0A, 0x1A, 0x0A]

/-- The letters `RIFF`. -/
def riffTag : List UInt8 := [0x52, 0x49, 0x46, 0x46]

/-- The letters `WEBP`. -/
def webpTag : List UInt8 := [0x57, 0x45, 0x42, 0x50]

/-- The letters `VP8X`. -/
def extendedTag : List UInt8 := [0x56, 0x50, 0x38, 0x58]

/-- Whether `tag` stands at place `i` of `bs`. -/
def hasAt (bs : List UInt8) (i : Nat) (tag : List UInt8) : Bool := (bs.drop i).take tag.length = tag

/-- Whether the header of an extended WebP picture has the animation flag. -/
def isAnimated (bs : List UInt8) : Bool :=
  hasAt bs 12 extendedTag && (bs[20]?).any (fun flags => flags &&& 2 ≠ 0)

/-- The type that the first bytes of a file show. -/
def ofHeader (bs : List UInt8) : PictureType :=
  if hasAt bs 0 [0xFF, 0xD8, 0xFF] && (bs[3]?).any (fun b => b = 0xE0 ∨ b = 0xE1) then jpeg
  else if hasAt bs 0 pngSignature then png
  else if hasAt bs 0 riffTag && hasAt bs 8 webpTag then
    if isAnimated bs then animatedWebp else staticWebp
  else notImage

end PictureType

end PictureIndex
