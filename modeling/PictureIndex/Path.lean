import PictureIndex.Text.LowerCase
import PictureIndex.Text.Order
/-!
# Paths

A path is a list of bytes, since the file system knows no character encoding.  Its text, used
for messages, for exclusion and as a key of the index, replaces what is not UTF-8.

The name of a path is its last piece between slashes, where empty pieces and `.` do not count;
a path that ends in `..` has no name.  The extension of a name is what follows its last dot,
unless that dot is the first character.
-/

namespace PictureIndex

/-- A path, relative or absolute. -/
structure Path where
  /-- The path as the file system sees it. -/
  bytes : List UInt8
deriving DecidableEq, Repr, Inhabited

namespace Path

/-- The slash that separates names. -/
def slash : UInt8 := 0x2F

/-- The dot before an extension. -/
def dot : UInt8 := 0x2E

/-- The path spelled by a text. -/
def ofText (s : String) : Path := ⟨Text.bytes s⟩

/-- The text of a path, with U+FFFD for what is not UTF-8. -/
def text (p : Path) : String := Text.ofBytesLossy p.bytes

@[simp] theorem text_ofText (s : String) : (ofText s).text = s := by simp [ofText, text]

/-- The pieces between slashes, empty ones included. -/
def splitSlash : List UInt8 → List (List UInt8)
  | [] => [[]]
  | b :: bs =>
    if b = slash then [] :: splitSlash bs
    else match splitSlash bs with
      | [] => [[b]]
      | n :: ns => (b :: n) :: ns

/-- Whether the path starts at the root. -/
def isAbsolute (p : Path) : Bool := p.bytes.head? = some slash

/-- Whether the path starts with the name `.`. -/
def startsHere (p : Path) : Bool := (splitSlash p.bytes).head? = some [dot]

/-- The pieces that count: neither empty nor `.`. -/
def pieces (p : Path) : List (List UInt8) :=
  (splitSlash p.bytes).filter (fun n => !n.isEmpty && n != [dot])

/-- Whether two paths are spelled by the same names: slashes at the end, doubled slashes and `.`
behind the start make no difference. -/
def sameAs (p q : Path) : Bool :=
  p.isAbsolute == q.isAbsolute && p.startsHere == q.startsHere && p.pieces == q.pieces

/-- The name of the path. -/
def name? (p : Path) : Option (List UInt8) :=
  p.pieces.getLast?.filter (· != [dot, dot])

/-- A name cut at its last dot, unless there is none or it comes first. -/
def cutExtension (name : List UInt8) : Option (List UInt8 × List UInt8) :=
  let tail := name.reverse.takeWhile (· != dot)
  let front := name.take (name.length - tail.length - 1)
  if tail.length < name.length && !front.isEmpty then some (front, tail.reverse) else none

/-- What follows the last dot of the name; it may be empty. -/
def extension? (p : Path) : Option (List UInt8) :=
  p.name?.bind fun n => (cutExtension n).map (·.2)

/-- The name without its extension. -/
def stem? (p : Path) : Option (List UInt8) :=
  p.name?.map fun n => ((cutExtension n).map (·.1)).getD n

/-- The path of an entry of the directory `p`. -/
def entry (p : Path) (name : List UInt8) : Path :=
  if p.bytes = [] ∨ p.bytes.getLast? = some slash then ⟨p.bytes ++ name⟩
  else ⟨p.bytes ++ slash :: name⟩

/-- Whether the path has an extension that is not empty, the mark of a file's path. -/
def hasExtension (p : Path) : Bool := p.extension?.any (!·.isEmpty)

/-- The extension in ASCII lower case, if it is UTF-8. -/
def lowerExtension? (p : Path) : Option String :=
  p.extension?.bind fun e => (Text.ofBytes? e).map Text.lowerAscii

/-- The extensions under which pictures are looked for. -/
def pictureExtensions : List String := ["jpg", "jpeg", "png", "webp"]

/-- Whether the path's extension is one of a picture. -/
def isCandidate (p : Path) : Bool := p.lowerExtension?.any (pictureExtensions.contains ·)

/-- Whether the path's text starts with one of the prefixes; an empty prefix excludes nothing. -/
def isExcluded (p : Path) (prefixes : List String) : Bool :=
  prefixes.any fun e => !e.isEmpty && e.toList.isPrefixOf p.text.toList

end Path

end PictureIndex
