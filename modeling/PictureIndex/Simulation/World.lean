import PictureIndex.Bitmap.Decoder
import PictureIndex.Simulation.Script
import PictureIndex.Store.Basic
import PictureIndex.Time.Wait
/-!
# The world of a simulation

Everything that the requests of a plan are put to: a clock, a file system, a store and scripted
backends.  `reply` answers one request; answers of the file system and the store take no time.
`carryOut` carries out a whole plan with nothing else going on.
-/

namespace PictureIndex.Simulation

/-- The surroundings of all plans. -/
structure World where
  /-- Time since the start, in milliseconds. -/
  now : Nat
  /-- The file system. -/
  files : FileTree
  /-- The store. -/
  store : Store
  /-- The requests that the store refuses. -/
  refused : List StoreCall
  /-- Text recognition. -/
  ocr : Script TextAnswer
  /-- Content classification. -/
  classifier : Script LabelAnswer
  /-- The decoder. -/
  decoder : Decoder
  /-- The calls made, in order. -/
  calls : List Call
deriving Inhabited

/-- What comes of a request. -/
inductive Reply (α : Type)
  /-- An answer after a delay in milliseconds. -/
  | answer (a : α) (delay : Nat)
  /-- No answer ever. -/
  | never
  /-- The task that asked is lost. -/
  | lost

namespace World

/-- The world with one more call in its log. -/
def log (w : World) (c : Call) : World := { w with calls := w.calls ++ [c] }

/-- Whether a backend is ready. -/
def isReady (w : World) : BackendKind → Bool
  | .ocr => w.ocr.isReady w.now
  | .contentClassifier => w.classifier.isReady w.now

/-- Tells the backends in use of a readiness retry; only the classifier listens. -/
def notifyRetry (w : World) (b : Backends) (attempt : Nat) : World :=
  if b.contentClassifier then w.log (.retry attempt) else w

/-- Disconnects the backends in use. -/
def release (w : World) (b : Backends) : World :=
  b.kinds.foldl (fun w k => w.log (.release k)) w

/-! ## The store -/

/-- The store's answer to a request that reads. -/
def query {α : Type} (w : World) (c : StoreCall) (f : Store → Except Error α) : Except Error α :=
  if w.refused.contains c then .error (.general (c.name ++ " refused")) else f w.store

/-- The store's answer to a request that writes, and the world after it. -/
def update (w : World) (c : StoreCall) (f : Store → Except Error Store) :
    Except Error Unit × World :=
  match w.query c f with
  | .ok s => (.ok (), { w with store := s })
  | .error e => (.error e, w)

/-- The recorded paths. -/
def recorded (w : World) : Except Error (List String) := w.query .all Store.all

/-! ## Requests -/

/-- The reply of a scripted response. -/
def ofResponse {α : Type} : Response α → Reply (Except Error α)
  | .answer result delay => .answer result (Wait.ofMillis delay)
  | .never => .never
  | .lost => .lost

/-- What the decoder makes of a file. -/
def decode (w : World) (p : Path) : Reply (Option Bitmap) × World :=
  match w.decoder with
  | .proper logged =>
    (.answer (w.files.decode? p) 0, if logged then w.log (.decode p) else w)
  | .scripted failing hanging =>
    let w := w.log (.decode p)
    if hanging.contains p then (.never, w)
    else if failing.contains p then (.answer none 0, w)
    else (.answer (some ⟨1, 1⟩) 0, w)

/-- The reply to a request, and the world after it. -/
def reply (w : World) : (r : Request) → Reply r.Answer × World
  | .kind p => (.answer (w.files.kind? p) 0, w)
  | .list p => (.answer (w.files.list p) 0, w)
  | .sniff p => (.answer (w.files.pictureType p) 0, w)
  | .info p => (.answer (w.files.info? p) 0, w)
  | .recordedTime p => (.answer (w.query .recordedTime (·.lastModified? p)) 0, w)
  | .decode p => w.decode p
  | .arm => (.answer () 0, w)
  | .recognise b =>
    let (response, script) := w.ocr.next ⟨[]⟩
    (ofResponse response, { w.log (.ocr b) with ocr := script })
  | .classify p =>
    let (response, script) := w.classifier.next ⟨.ok, []⟩
    (ofResponse response, { w.log (.classify p) with classifier := script })
  | .insert r => let (answer, w) := w.update .insert (·.insert r); (.answer answer 0, w)
  | .remove p => let (answer, w) := w.update .remove (·.remove p); (.answer answer 0, w)
  | .under p => (.answer (w.query .under (·.under p)) 0, w)
  | .abort => (.lost, w)

/-- Carries out a plan.  Tells the result, unless an answer stayed away, and whether the picture
was decoded. -/
def carryOut {α : Type} (w : World) (armed : Bool) : Plan α → Option α × Bool × World
  | .done a => (some a, armed, w)
  | .ask r next =>
    match w.reply r with
    | (.answer a delay, w') =>
      let armed := armed || (match r with | .arm => true | _ => false)
      { w' with now := w'.now + delay }.carryOut armed (next a)
    | (.never, w') => (none, armed, w')
    | (.lost, w') => (none, armed, w')

end World

end PictureIndex.Simulation
