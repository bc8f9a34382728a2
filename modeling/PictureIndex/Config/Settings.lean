import PictureIndex.Config
import PictureIndex.Store.Basic
import PictureIndex.Text.Blank
/-!
# Stored settings

Settings in the store override fields of a configuration, one after the other.  A value that
cannot be read leaves its field as it was; a store that fails leaves the fields that come later
as they were and is reported.
-/

namespace PictureIndex.Config

/-- The reading of an on-off setting. -/
def readSwitch? (raw : String) : Option Bool :=
  let value := Text.trim raw
  if value = "1" ∨ value = "true" ∨ value = "on" then some true
  else if value = "0" ∨ value = "false" ∨ value = "off" then some false
  else none

/-- The reading of the indexing limit: a count, or a word for no limit. -/
def readLimit? (raw : String) : Option (Option UInt32) :=
  let value := Text.trim raw
  if value = "" ∨ value = "off" ∨ value = "none" then some none
  else (readCount? value).map some

/-- A setting: its key, and the configuration that a value of it makes of another one. -/
structure Setting where
  /-- The key in the store. -/
  key : String
  /-- The effect of a value, `none` if it cannot be read. -/
  changed? : Config → String → Option Config

/-- The settings in the order in which they take effect. -/
def settings : List Setting :=
  [⟨"indexing_limit", fun c raw => (readLimit? raw).map ({ c with indexingLimit := · })⟩,
    ⟨"excluded_prefixes", fun c raw =>
      ((Json.parse? raw).bind (Json.asList? Json.asString?)).map
        ({ c with excludedPrefixes := · })⟩,
    ⟨"confidence_threshold", fun c raw =>
      (Single.read? (Text.trim raw)).map ({ c with confidenceThreshold := · })⟩,
    ⟨"use_ocr", fun c raw => (readSwitch? raw).map ({ c with useOcr := · })⟩,
    ⟨"use_content_classifier", fun c raw =>
      (readSwitch? raw).map ({ c with useContentClassifier := · })⟩,
    ⟨"enable_watchers", fun c raw => (readSwitch? raw).map ({ c with enableWatchers := · })⟩]

/-- The configuration after the stored settings have been read, and the store's failure if it
failed on the way. -/
def applySettings (c : Config) (s : Store) : Config × Except Error Unit :=
  go c settings
where
  go (c : Config) : List Setting → Config × Except Error Unit
    | [] => (c, .ok ())
    | setting :: rest =>
      match s.setting? setting.key with
      | .error e => (c, .error e)
      | .ok none => go c rest
      | .ok (some raw) => go ((setting.changed? c raw).getD c) rest

end PictureIndex.Config
