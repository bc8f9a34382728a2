import PictureIndex.Annotation
/-!
# Scripted surroundings

Stand-ins for the annotation backends and the decoder.  A scripted backend becomes ready at a set
time and gives prepared responses one after the other, the last one again and again.  A response
can also stay away for ever, or take down the task that waits for it.
-/

namespace PictureIndex.Simulation

/-- A prepared response. -/
inductive Response (α : Type)
  /-- An answer or an error after a delay in milliseconds. -/
  | answer (result : Except Error α) (delay : Nat)
  /-- No answer ever. -/
  | never
  /-- The waiting task dies. -/
  | lost
deriving Inhabited

/-- A scripted backend. -/
structure Script (α : Type) where
  /-- The time from which it is ready, in milliseconds; `none` if it never is. -/
  readyAt : Option Nat
  /-- The responses still to come. -/
  responses : List (Response α)
deriving Inhabited

namespace Script

variable {α : Type}

/-- Whether the backend is ready at a time. -/
def isReady (s : Script α) (now : Nat) : Bool := s.readyAt.any (· ≤ now)

/-- The next response, `default` where none is prepared, and the script after it. -/
def next (default : α) (s : Script α) : Response α × Script α :=
  match s.responses with
  | [] => (.answer (.ok default) 0, s)
  | [r] => (r, s)
  | r :: rest => (r, { s with responses := rest })

end Script

/-- A decoder. -/
inductive Decoder
  /-- The decoder proper; its calls are logged or not. -/
  | proper (logged : Bool)
  /-- Every file is one pixel, but some fail and some are never decoded. -/
  | scripted (failing hanging : List Path)
deriving Inhabited

/-- A call of a backend or the decoder. -/
inductive Call
  | decode (p : Path)
  | ocr (b : Bitmap)
  | classify (p : Path)
  | retry (attempt : Nat)
  | release (kind : BackendKind)
deriving DecidableEq, Repr, Inhabited

/-- The written form of a call. -/
def Call.text : Call → String
  | decode p => "decode " ++ p.text
  | ocr b => "ocr " ++ toString b.width ++ "x" ++ toString b.height
  | classify p => "classify " ++ p.text
  | retry n => "retry " ++ toString n
  | release .ocr => "release ocr"
  | release .contentClassifier => "release classifier"

/-- A request to the store that can be made to fail. -/
inductive StoreCall
  | insert
  | remove
  | recordedTime
  | all
  | under
deriving DecidableEq, Repr, Inhabited

namespace StoreCall

/-- The calls with their written names. -/
def names : List (String × StoreCall) :=
  [("insert", insert), ("remove", remove), ("get_last_modified_time", recordedTime),
    ("get_all_files", all), ("search_by_directory", under)]

/-- The written name of a call. -/
def name : StoreCall → String
  | insert => "insert"
  | remove => "remove"
  | recordedTime => "get_last_modified_time"
  | all => "get_all_files"
  | under => "search_by_directory"

end StoreCall

end PictureIndex.Simulation
