import PictureIndex.Answer
import PictureIndex.Bitmap
import PictureIndex.Inspection
import PictureIndex.Record
import PictureIndex.Error
/-!
# Plans

What the processing of one item does is a sequence of requests to its surroundings: the file
system, the store, the decoder, the annotation backends and the scheduler.  A `Plan` is such a
sequence, where each request depends on the answers to those before it.  A plan says nothing
about who answers or when; anything may happen between two requests.  It can be carried out in
one go or request by request, side by side with other plans.
-/

namespace PictureIndex

/-- What a plan asks of its surroundings. -/
inductive Request
  /-- What stands at a path, links not followed. -/
  | kind (p : Path)
  /-- The paths of a directory's entries. -/
  | list (p : Path)
  /-- The type of picture at a path. -/
  | sniff (p : Path)
  /-- Size and time of the regular file a path leads to. -/
  | info (p : Path)
  /-- The modification time that the store has for a path. -/
  | recordedTime (p : Path)
  /-- The decoded picture at a path. -/
  | decode (p : Path)
  /-- Tells the scheduler that the picture is decoded, so that its time starts to run. -/
  | arm
  /-- Text recognition. -/
  | recognise (b : Bitmap)
  /-- Content classification. -/
  | classify (p : Path)
  /-- Sets a record in the store. -/
  | insert (r : Record)
  /-- Removes a record from the store. -/
  | remove (p : Path)
  /-- The recorded paths below a directory. -/
  | under (p : Path)
  /-- Takes down the task that asks, which is never answered. -/
  | abort

/-- What a request is answered with. -/
def Request.Answer : Request → Type
  | kind _ => Option EntryKind
  | list _ => List Path
  | sniff _ => PictureType
  | info _ => Option FileInfo
  | recordedTime _ => Except Error (Option Instant)
  | decode _ => Option Bitmap
  | arm => Unit
  | recognise _ => Except Error TextAnswer
  | classify _ => Except Error LabelAnswer
  | insert _ => Except Error Unit
  | remove _ => Except Error Unit
  | under _ => Except Error (List String)
  | abort => Empty

/-- A sequence of requests that ends with a result. -/
inductive Plan (α : Type)
  /-- The result. -/
  | done (a : α)
  /-- A request, and how to go on with its answer. -/
  | ask (r : Request) (next : r.Answer → Plan α)

namespace Plan

variable {α β : Type}

/-- One plan after another. -/
def bind (p : Plan α) (f : α → Plan β) : Plan β :=
  match p with
  | done a => f a
  | ask r next => ask r fun answer => (next answer).bind f

instance : Monad Plan where
  pure := done
  bind := bind

/-- A single request. -/
def request (r : Request) : Plan r.Answer := ask r done

/-- The plan of a task that goes down here. -/
def abort : Plan α := ask .abort Empty.elim

@[simp] theorem pure_eq (a : α) : (pure a : Plan α) = done a := rfl

@[simp] theorem done_bind (a : α) (f : α → Plan β) : (done a >>= f) = f a := rfl

@[simp] theorem ask_bind (r : Request) (next : r.Answer → Plan α) (f : α → Plan β) :
    (ask r next >>= f) = ask r fun answer => next answer >>= f := rfl

@[simp] theorem request_bind (r : Request) (f : r.Answer → Plan β) :
    (request r >>= f) = ask r f := rfl

end Plan

end PictureIndex
