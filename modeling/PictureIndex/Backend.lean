import PictureIndex.Config
/-!
# Annotation backends

There are two ways of annotating a picture: recognising text in it and classifying its content.
A worker uses those that its configuration enables, and each of these has to be provided.
-/

namespace PictureIndex

/-- A way of annotating pictures. -/
inductive BackendKind
  /-- Text recognition. -/
  | ocr
  /-- Content classification. -/
  | contentClassifier
deriving DecidableEq, Repr, Inhabited

/-- The written name of a backend. -/
def BackendKind.name : BackendKind → String
  | ocr => "ocr"
  | contentClassifier => "content_classifier"

/-- The backends in use. -/
structure Backends where
  /-- Whether text recognition is used. -/
  ocr : Bool
  /-- Whether content classification is used. -/
  contentClassifier : Bool
deriving DecidableEq, Repr, Inhabited

namespace Backends

/-- The backends that a configuration enables, given which are provided. -/
def ofConfig (c : Config) (ocrProvided classifierProvided : Bool) : Except Error Backends :=
  if c.useOcr && !ocrProvided then
    .error (.config "OCR enabled but no OCR backend provided")
  else if c.useContentClassifier && !classifierProvided then
    .error (.config "content classifier enabled but no classifier provided")
  else .ok ⟨c.useOcr, c.useContentClassifier⟩

/-- The backends in use, in the order in which they are called, polled and released. -/
def kinds (b : Backends) : List BackendKind :=
  (if b.ocr then [.ocr] else []) ++ (if b.contentClassifier then [.contentClassifier] else [])

/-- Whether no backend is in use. -/
def isEmpty (b : Backends) : Bool := !b.ocr && !b.contentClassifier

/-- The backends in use that are not ready. -/
def notReady (b : Backends) (ready : BackendKind → Bool) : List BackendKind :=
  b.kinds.filter (!ready ·)

end Backends

end PictureIndex
