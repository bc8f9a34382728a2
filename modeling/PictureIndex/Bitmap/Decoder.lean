import PictureIndex.Bitmap.Jpeg
import PictureIndex.Bitmap.Png
import PictureIndex.Bitmap.Webp
import PictureIndex.FileTree
/-!
# Decoding a file

The format of a picture is chosen by the extension of its path, never by its content.  A file
that cannot be read, is broken or has no pixels gives no bitmap.
-/

namespace PictureIndex.FileTree

/-- The picture at a path. -/
def decode? (t : FileTree) (p : Path) : Option Bitmap := do
  let ext ← p.lowerExtension?
  let content ← t.read? p
  if ["png", "apng"].contains ext then Png.decode? content.toList
  else if ["jpg", "jpeg", "jfif"].contains ext then Jpeg.decode? content.toList
  else if ext = "webp" then Webp.decode? content.toList
  else none

end PictureIndex.FileTree
