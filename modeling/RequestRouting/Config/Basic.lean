import RequestRouting.Document.Basic
import RequestRouting.Request.Scope
import RequestRouting.Toml.Printer
import RequestRouting.Toml.Reader
import RequestRouting.Rule.Table
import RequestRouting.Url.Resources

/-!
# Configurations

What a configuration file holds: settings, the origin of absolute URLs, the sources of rule tables
and named URL patterns.

## Main definitions

* `Settings`, `ResourceEntry`, `Config` — the parts of a configuration.
* `Config.ofText?` — the configuration that a TOML text spells.
* `Config.toText` — a configuration as TOML text.
* `Config.toJson` — a configuration as a JSON value.
* `Config.compile` — the resources of a configuration.
-/

set_option autoImplicit false

namespace RequestRouting

/-- Settings that apply to every dispatch and to every URL. -/
structure Settings where
  mode : DispatchMode
  /-- Whether values in URLs are percent-encoded. -/
  escapeUrls : Bool
  /-- Whether extractors are forgotten once they have run after a match. -/
  clearExtractors : Bool
  deriving DecidableEq

/-- The settings that apply where none are given. -/
def Settings.byDefault : Settings := ⟨.byDefault, true, true⟩

/-- A named URL pattern. -/
structure ResourceEntry where
  name : String
  pattern : String
  description : Option String
  deriving DecidableEq

/-- A configuration. -/
structure Config where
  version : String
  settings : Settings
  /-- The origin of absolute URLs. -/
  origin : Option String
  /-- The files and directories with rule tables, in the order in which they are loaded. -/
  tables : List String
  resources : List ResourceEntry
  deriving DecidableEq

namespace Config

/-- The configuration of a new file. -/
def byDefault : Config := ⟨"1.0", .byDefault, none, [], []⟩

/-- The first resource with a name. -/
def resource? (config : Config) (name : String) : Option ResourceEntry :=
  config.resources.find? fun entry => entry.name = name

/-- Adds resources one after another. -/
def insertAll (resources : Resources) : List ResourceEntry → Except UrlError Resources
  | [] => .ok resources
  | entry :: rest => do insertAll (← resources.insert entry.name entry.pattern) rest

/-- The resources of a configuration, with the origin if there is one. -/
def compile (config : Config) : Except UrlError Resources := do
  let start ← match config.origin with
    | some text => (Origin.parse text).map Resources.empty.withOrigin
    | none => .ok .empty
  insertAll start config.resources

end Config

/-! ## Reading -/

/-- Reads settings; each has a default. -/
def Settings.ofNode? (node : Node) : Option Settings := do
  let fields ← node.fields? .toml ["mode", "escape_urls", "clear_extractors"]
  some {
    mode := ← fieldOr fields "mode" Settings.byDefault.mode (DispatchMode.ofNode? .toml)
    escapeUrls := ← fieldOr fields "escape_urls" Settings.byDefault.escapeUrls Node.bool?
    clearExtractors :=
      ← fieldOr fields "clear_extractors" Settings.byDefault.clearExtractors Node.bool? }

namespace ResourceEntry

/-- The names of the fields. -/
def fieldNames : List String := ["name", "pattern", "description"]

/-- Whether a resource that is written as an array has all its fields. -/
def isComplete : Node → Bool
  | .array items => fieldNames.length ≤ items.length
  | _ => true

/-- Reads a resource. -/
def ofNode? (node : Node) : Option ResourceEntry := do
  let fields ← node.fields? .toml fieldNames
  if isComplete node then
    some {
      name := ← requiredField fields "name" Node.text?
      pattern := ← requiredField fields "pattern" Node.text?
      description := ← optionalField fields "description" Node.text? }
  else none

end ResourceEntry

namespace Config

/-- Reads a configuration. -/
def ofNode? (node : Node) : Option Config := do
  let fields ← node.fields? .toml ["version", "settings", "origin", "tables", "resources"]
  some {
    version := ← requiredField fields "version" Node.text?
    settings := ← fieldOr fields "settings" .byDefault Settings.ofNode?
    origin := ← optionalField fields "origin" Node.text?
    tables := ← fieldOr fields "tables" [] (Node.list? Node.text?)
    resources := ← fieldOr fields "resources" [] (Node.list? ResourceEntry.ofNode?) }

/-- The configuration that a TOML text spells. -/
def ofText? (text : String) : Option Config := (Toml.parse? text).bind ofNode?

end Config

/-! ## Writing -/

/-- The section with the settings. -/
def Settings.toText (settings : Settings) : String :=
  "[settings]\n" ++ Toml.writeLine "mode" (Toml.writeText settings.mode.name) ++
    Toml.writeLine "escape_urls" (Toml.writeBool settings.escapeUrls) ++
    Toml.writeLine "clear_extractors" (Toml.writeBool settings.clearExtractors)

/-- The line of a text that may be absent. -/
def writeOptional (key : String) (text : Option String) : String :=
  match text with
  | some text => Toml.writeLine key (Toml.writeText text)
  | none => ""

/-- The section with a resource. -/
def ResourceEntry.toText (entry : ResourceEntry) : String :=
  "\n[[resources]]\n" ++ Toml.writeLine "name" (Toml.writeText entry.name) ++
    Toml.writeLine "pattern" (Toml.writeText entry.pattern) ++
    writeOptional "description" entry.description

/-- A configuration as TOML text. -/
def Config.toText (config : Config) : String :=
  Toml.writeLine "version" (Toml.writeText config.version) ++
    writeOptional "origin" config.origin ++
    Toml.writeLine "tables" (Toml.writeTexts config.tables) ++
    (if config.resources.isEmpty then Toml.writeLine "resources" "[]" else "") ++
    "\n" ++ config.settings.toText ++
    String.join (config.resources.map ResourceEntry.toText)

/-! ## JSON -/

/-- The field of a text that may be absent. -/
def presentField (name : String) (text : Option String) : List (String × Json) :=
  (text.map fun text => (name, Json.string text)).toList

/-- Settings as a JSON value. -/
def Settings.toJson (settings : Settings) : Json :=
  .object [("clear_extractors", .bool settings.clearExtractors),
    ("escape_urls", .bool settings.escapeUrls), ("mode", .string settings.mode.name)]

/-- A resource as a JSON value. -/
def ResourceEntry.toJson (entry : ResourceEntry) : Json :=
  .object (presentField "description" entry.description ++
    [("name", .string entry.name), ("pattern", .string entry.pattern)])

/-- A configuration as a JSON value. -/
def Config.toJson (config : Config) : Json :=
  .object (presentField "origin" config.origin ++
    [("resources", .array (config.resources.map ResourceEntry.toJson)),
      ("settings", config.settings.toJson), ("tables", .ofStrings config.tables),
      ("version", .string config.version)])

end RequestRouting
