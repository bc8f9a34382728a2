import PictureIndex.Error
import PictureIndex.Json.Decode
import PictureIndex.Path
/-!
# Configuration

What the indexer is told to do.  A configuration starts from the defaults for a root directory or
from a JSON file whose missing fields have their defaults; stored settings may override some of
its fields (`Config.Settings`), and `validate` says whether a worker can be started with it.
-/

namespace PictureIndex

/-- What to index and how. -/
structure Config where
  /-- Directory whose tree is indexed. -/
  root : Path
  /-- Paths that start with one of these are left alone. -/
  excludedPrefixes : List String
  /-- Number of pictures annotated in one session at most. -/
  indexingLimit : Option UInt32
  /-- Labels below this confidence do not count. -/
  confidenceThreshold : Single
  /-- Whether text recognition is used. -/
  useOcr : Bool
  /-- Whether content classification is used. -/
  useContentClassifier : Bool
  /-- Whether changes of the tree are watched. -/
  enableWatchers : Bool
  /-- Whether pictures are annotated by file name where no backend is used. -/
  fallbackAnnotator : Bool
  /-- Words that are not indexed. -/
  stopWords : List String
  /-- Larger files are not indexed. -/
  maxFileSizeBytes : UInt64
  /-- Time the backends have for one picture, in seconds. -/
  annotationTimeoutSecs : UInt64
  /-- Number of polls after which backends that are not ready are given up. -/
  readinessRetryCeiling : UInt32
deriving Repr, Inhabited

namespace Config

/-- Stop words of a configuration that names none. -/
def defaultStopWords : List String :=
  ["a", "about", "after", "all", "also", "an", "and", "any", "are", "as", "at", "be", "been",
    "but", "by", "can", "could", "did", "do", "does", "for", "from", "had", "has", "have", "her",
    "his", "how", "into", "its", "just", "more", "not", "now", "of", "on", "one", "only", "or",
    "our", "out", "she", "should", "some", "than", "that", "the", "their", "them", "then",
    "there", "these", "they", "this", "was", "were", "what", "when", "which", "who", "will",
    "with", "would", "you", "your"]

/-- The configuration for a root directory with everything else at its default. -/
def forRoot (root : Path) : Config where
  root := root
  excludedPrefixes := []
  indexingLimit := some 500
  confidenceThreshold := Single.ofRatio false 79 255
  useOcr := true
  useContentClassifier := true
  enableWatchers := true
  fallbackAnnotator := false
  stopWords := defaultStopWords
  maxFileSizeBytes := 20 * 1024 * 1024
  annotationTimeoutSecs := 120
  readinessRetryCeiling := 12

/-- Whether any backend is used. -/
def hasBackend (c : Config) : Bool := c.useOcr || c.useContentClassifier

/-- Whether a worker can run with the configuration. -/
def validate (c : Config) : Except Error Unit :=
  if !c.hasBackend && !c.fallbackAnnotator then
    .error (.config "no annotation backend enabled")
  else if !(Single.zero.le c.confidenceThreshold && c.confidenceThreshold.le Single.one) then
    .error (.config ("confidence threshold " ++ c.confidenceThreshold.plain ++ " outside 0..=1"))
  else if c.root.bytes.isEmpty then
    .error (.config "no root directory configured")
  else .ok ()

/-! ## JSON form -/

/-- The names of the fields, in order. -/
def fieldNames : List String :=
  ["root", "excluded_prefixes", "indexing_limit", "confidence_threshold", "use_ocr",
    "use_content_classifier", "enable_watchers", "fallback_annotator", "stop_words",
    "max_file_size_bytes", "annotation_timeout_secs", "readiness_retry_ceiling"]

/-- A field's value, or its default where the field is missing. -/
def field? {α : Type} (f : Json → Option α) (default : α) : Option Json → Option α
  | none => some default
  | some v => f v

/-- The configuration of a JSON value; missing fields have the defaults for an empty root. -/
def ofJson? (v : Json) : Option Config := do
  let d := forRoot ⟨[]⟩
  let [root, excluded, limit, threshold, ocr, classifier, watchers, fallback, stops, size, timeout,
      ceiling] ← Json.asFields? fieldNames v | none
  let strings? := Json.asList? Json.asString?
  return {
    root := ← field? (fun v => v.asString?.map Path.ofText) d.root root
    excludedPrefixes := ← field? strings? d.excludedPrefixes excluded
    indexingLimit := ← field? (Json.asOption? Json.asUInt32?) d.indexingLimit limit
    confidenceThreshold := ← field? Json.asSingle? d.confidenceThreshold threshold
    useOcr := ← field? Json.asBool? d.useOcr ocr
    useContentClassifier := ← field? Json.asBool? d.useContentClassifier classifier
    enableWatchers := ← field? Json.asBool? d.enableWatchers watchers
    fallbackAnnotator := ← field? Json.asBool? d.fallbackAnnotator fallback
    stopWords := ← field? strings? d.stopWords stops
    maxFileSizeBytes := ← field? Json.asUInt64? d.maxFileSizeBytes size
    annotationTimeoutSecs := ← field? Json.asUInt64? d.annotationTimeoutSecs timeout
    readinessRetryCeiling := ← field? Json.asUInt32? d.readinessRetryCeiling ceiling }

/-- The JSON form of a configuration. -/
def toJson (c : Config) : String :=
  Json.brace [
    ("root", Json.quote c.root.text),
    ("excluded_prefixes", Json.writeStrings c.excludedPrefixes),
    ("indexing_limit", Json.writeOption (toString ·.toNat) c.indexingLimit),
    ("confidence_threshold", Json.writeSingle c.confidenceThreshold),
    ("use_ocr", Json.writeBool c.useOcr),
    ("use_content_classifier", Json.writeBool c.useContentClassifier),
    ("enable_watchers", Json.writeBool c.enableWatchers),
    ("fallback_annotator", Json.writeBool c.fallbackAnnotator),
    ("stop_words", Json.writeStrings c.stopWords),
    ("max_file_size_bytes", toString c.maxFileSizeBytes.toNat),
    ("annotation_timeout_secs", toString c.annotationTimeoutSecs.toNat),
    ("readiness_retry_ceiling", toString c.readinessRetryCeiling.toNat)]

/-- The configuration in a file with the given content, `none` for a file that cannot be read. -/
def ofFile (content : Option (List UInt8)) : Except Error Config :=
  match content with
  | none => .error (.io "no such file")
  | some bs =>
    match Text.ofBytes? bs with
    | none => .error (.io "the file is not UTF-8")
    | some s =>
      match (Json.parse? s).bind ofJson? with
      | none => .error (.serialization "the file is not a configuration")
      | some c => .ok c

end Config

end PictureIndex
