import PictureIndex.Backend
import PictureIndex.Plan
/-!
# Processing an item

An item of the queue is a path to look at or a path whose record is to be removed.

*Looking at a path* (`examine`) leaves links alone, expands a directory into its entries and
annotates a picture.  Where nothing stands at the path, its record is removed; a path without an
extension may have been a directory, and then the recorded paths below it are returned to be
looked at one by one.

*Annotating* (`annotate`) first makes sure that the file is a picture worth indexing and rejects
it otherwise, which also drops its record.  A picture whose modification time lies outside the
range of an `Instant` takes the task down: it neither finishes nor asks for its time to run.  A
picture whose recorded modification time is its present one is left alone, and so is every other
one once the budget is spent.  The picture is then decoded, and each stage adds the words it finds;
the record is written if at least one stage succeeded.  The time in the record is the one read
before anything else, so a file that changes meanwhile is seen to have changed later.
-/

namespace PictureIndex

/-- Why an item was passed over. -/
inductive SkipReason
  /-- The file is no picture. -/
  | notImage
  /-- The path is a link. -/
  | symlink
  /-- The record is up to date. -/
  | unchanged
  /-- The budget is spent. -/
  | budgetReached
  /-- The path of a record to be removed exists. -/
  | stillPresent
deriving DecidableEq, Repr, Inhabited

/-- The reasons with their written names. -/
def SkipReason.names : List (String × SkipReason) :=
  [("NotImage", notImage), ("Symlink", symlink), ("Unchanged", unchanged),
    ("BudgetReached", budgetReached), ("StillPresent", stillPresent)]

/-- The written name of a reason. -/
def SkipReason.name : SkipReason → String
  | notImage => "NotImage"
  | symlink => "Symlink"
  | unchanged => "Unchanged"
  | budgetReached => "BudgetReached"
  | stillPresent => "StillPresent"

/-- Why an item failed. -/
inductive FailureReason
  /-- The picture could not be decoded. -/
  | decode
  /-- No stage succeeded. -/
  | backends
  /-- There was no stage. -/
  | noBackend
  /-- The store refused. -/
  | store
deriving DecidableEq, Repr, Inhabited

/-- The reasons with their written names. -/
def FailureReason.names : List (String × FailureReason) :=
  [("Decode", decode), ("Backends", backends), ("NoBackend", noBackend), ("Store", store)]

/-- The written name of a reason. -/
def FailureReason.name : FailureReason → String
  | decode => "Decode"
  | backends => "Backends"
  | noBackend => "NoBackend"
  | store => "Store"

/-- How an item finished. -/
inductive Outcome
  /-- A directory with these entries. -/
  | expanded (children : List Path)
  /-- A directory that is gone, with these recorded paths below it. -/
  | staleDescendants (paths : List Path)
  /-- A record was removed. -/
  | removed
  /-- The file is no picture worth indexing; its record was dropped. -/
  | rejected
  /-- Nothing was done. -/
  | skipped (reason : SkipReason)
  /-- A record with that many words was written. -/
  | annotated (words : Nat)
  /-- Something failed. -/
  | failed (reason : FailureReason)
deriving DecidableEq, Repr, Inhabited

/-- What processing needs to know of the configuration. -/
structure Pipeline where
  /-- The backends in use. -/
  backends : Backends
  /-- The filter for words. -/
  filter : WordFilter
  /-- Labels below this confidence do not count. -/
  threshold : Single
  /-- Larger files are rejected. -/
  maxSize : Nat
  /-- Whether pictures are annotated by name where no backend is in use. -/
  fallback : Bool
deriving Inhabited

namespace Pipeline

/-- The pipeline of a configuration with the given backends. -/
def ofConfig (c : Config) (backends : Backends) : Pipeline where
  backends := backends
  filter := WordFilter.ofStopWords c.stopWords
  threshold := c.confidenceThreshold
  maxSize := c.maxFileSizeBytes.toNat
  fallback := c.fallbackAnnotator

/-! ## Stages -/

/-- A source of words. -/
inductive Stage
  /-- Text recognition. -/
  | ocr
  /-- Content classification. -/
  | classifier
  /-- The name of the file. -/
  | fileName
deriving DecidableEq, Repr, Inhabited

/-- The stages of a picture, in order. -/
def stages (e : Pipeline) : List Stage :=
  if e.backends.isEmpty then (if e.fallback then [.fileName] else [])
  else e.backends.kinds.map fun
    | .ocr => .ocr
    | .contentClassifier => .classifier

/-- The word that a file's name gives: the name without extension in lower case. -/
def nameWords (p : Path) : List String :=
  match p.stem?.bind Text.ofBytes? with
  | some stem => [Text.lower stem]
  | none => []

/-- One stage: the words with its own added, or nothing if it failed. -/
def runStage (e : Pipeline) (p : Path) (b : Bitmap) (ws : WordSet) : Stage → Plan (Option WordSet)
  | .ocr => do
    match ← Plan.request (.recognise b) with
    | .error _ => return none
    | .ok answer => return some (answer.addWords e.filter ws)
  | .classifier => do
    match ← Plan.request (.classify p) with
    | .error _ => return none
    | .ok answer =>
      match answer.status with
      | .error => return none
      | .ok => return some (answer.addWords e.threshold e.filter ws)
  | .fileName => return some (ws.addAll (nameWords p))

/-- All stages one after the other: the words found, and how many stages succeeded. -/
def runStages (e : Pipeline) (p : Path) (b : Bitmap) (ws : WordSet) :
    List Stage → Plan (WordSet × Nat)
  | [] => return (ws, 0)
  | stage :: rest => do
    match ← e.runStage p b ws stage with
    | none => e.runStages p b ws rest
    | some ws =>
      let (ws, n) ← e.runStages p b ws rest
      return (ws, n + 1)

/-! ## Annotating -/

/-- Drops the record of a file that is no picture worth indexing. -/
def reject (p : Path) : Plan Outcome := do
  let _ ← Plan.request (.remove p)
  return .rejected

/-- Finds the words of a decoded picture and writes its record. -/
def describe (e : Pipeline) (p : Path) (b : Bitmap) (time : Instant) (size : Nat) :
    Plan Outcome := do
  if e.stages.isEmpty then return .failed .noBackend
  let (words, succeeded) ← e.runStages p b Table.empty e.stages
  if succeeded = 0 then return .failed .backends
  match ← Plan.request (.insert ⟨p, time, UInt64.ofNat size, words⟩) with
  | .ok _ => return .annotated words.size
  | .error _ => return .failed .store

/-- Decodes a picture and annotates it. -/
def develop (e : Pipeline) (p : Path) (time : Instant) (size : Nat) : Plan Outcome := do
  match ← Plan.request (.decode p) with
  | none => return .failed .decode
  | some b =>
    let _ ← Plan.request .arm
    e.describe p b time size

/-- Annotates a picture that is worth indexing, unless its record is up to date or the budget is
spent. -/
def refresh (e : Pipeline) (exhausted : Bool) (p : Path) (time : Instant) (size : Nat) :
    Plan Outcome := do
  let recorded ← Plan.request (.recordedTime p)
  if recorded.toOption = some (some time) then return .skipped .unchanged
  if exhausted then return .skipped .budgetReached
  e.develop p time size

/-- Annotates the file at a path. -/
def annotate (e : Pipeline) (exhausted : Bool) (p : Path) : Plan Outcome := do
  match ← Plan.request (.info p) with
  | none => reject p
  | some info =>
    if info.sizeBytes = 0 || e.maxSize < info.sizeBytes then reject p
    else
      let type : PictureType ← Plan.request (.sniff p)
      if !type.isIndexable then reject p
      else match info.modified with
        -- the time is read without a check of its range, and the task does not survive that
        | none => Plan.abort
        | some time => e.refresh exhausted p time info.sizeBytes

/-! ## Items -/

/-- Removes the record of a path. -/
def removeRecord (p : Path) : Plan Outcome := do
  match ← Plan.request (.remove p) with
  | .ok _ => return .removed
  | .error _ => return .failed .store

/-- What to do about a path at which nothing stands. -/
def examineMissing (p : Path) : Plan Outcome := do
  if p.hasExtension then removeRecord p
  else match ← Plan.request (.under p) with
    | .ok paths => return .staleDescendants (paths.map Path.ofText)
    | .error _ => return .staleDescendants []

/-- Looks at a path. -/
def examine (e : Pipeline) (exhausted : Bool) (p : Path) : Plan Outcome := do
  match ← Plan.request (.kind p) with
  | none => examineMissing p
  | some .link => return .skipped .symlink
  | some .directory => return .expanded (← Plan.request (.list p))
  | some .other => return .skipped .notImage
  | some .file =>
    let type : PictureType ← Plan.request (.sniff p)
    if type = .notImage then return .skipped .notImage
    e.annotate exhausted p

/-- Removes the record of a path at which nothing stands. -/
def removeStale (p : Path) : Plan Outcome := do
  match ← Plan.request (.kind p) with
  | none => removeRecord p
  | some _ => return .skipped .stillPresent

end Pipeline

end PictureIndex
