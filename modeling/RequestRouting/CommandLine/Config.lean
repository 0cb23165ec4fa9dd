import RequestRouting.Config.File
import RequestRouting.Session.Error
import RequestRouting.Terminal.Console
import RequestRouting.Terminal.Style

/-!
# Commands on the configuration file

## Main definitions

* `ConfigCommand` — the commands.
* `CommandError` — why a command fails.
* `ConfigCommand.run` — runs a command.
-/

set_option autoImplicit false

namespace RequestRouting

/-- A command on the configuration file. -/
inductive ConfigCommand where
  /-- Makes a new file. -/
  | init
  /-- Shows the path of the file. -/
  | showPath
  /-- Checks the file. -/
  | validate
  /-- Shows what is in the file. -/
  | list
  | addResource (entry : ResourceEntry)
  /-- Removes a resource, with `sure` without a question. -/
  | removeResource (name : String) (sure : Bool)
  | addTable (path : String)
  deriving DecidableEq

/-- Why a command fails. -/
inductive CommandError where
  /-- A session cannot do what it is asked for. -/
  | session (cause : SessionError)
  /-- The configuration file cannot be found or made. -/
  | config (cause : ConfigError)
  /-- The configuration file cannot be loaded. -/
  | noConfig (cause : ConfigError)
  /-- The configuration is not valid. -/
  | invalidConfig (cause : ConfigError)
  /-- There is no such resource. -/
  | unknownResource (name : String)
  /-- The answer to a question cannot be read. -/
  | input (cause : FileError)
  /-- A resource cannot be added. -/
  | addResource (name : String) (cause : ConfigError)
  /-- A resource cannot be removed. -/
  | removeResource (name : String) (cause : ConfigError)
  /-- A source of rule tables cannot be added. -/
  | addTable (path : String) (cause : ConfigError)

/-- The wording of an error: what was attempted, and then what has gone wrong. -/
def CommandError.chain : CommandError → List String
  | .session cause => cause.chain
  | .config cause => cause.chain
  | .noConfig cause => "Config not found. Run 'switchboard config init' first." :: cause.chain
  | .invalidConfig cause => "Config is invalid" :: cause.chain
  | .unknownResource name => ["Resource not found: " ++ name]
  | .input cause => [cause.message]
  | .addResource name cause => ("Failed to add resource '" ++ name ++ "'") :: cause.chain
  | .removeResource name cause => ("Failed to remove resource '" ++ name ++ "'") :: cause.chain
  | .addTable path cause => ("Failed to add rule table '" ++ path ++ "'") :: cause.chain

namespace ConfigCommand

/-! ## Listing -/

/-- The lines about the settings. -/
def settingLines (colours : Bool) (config : Config) : List String :=
  [paint colours .bold "Settings:", "  mode: " ++ config.settings.mode.name,
    "  escape_urls: " ++ toString config.settings.escapeUrls,
    "  clear_extractors: " ++ toString config.settings.clearExtractors] ++
    (config.origin.map fun origin => "  origin: " ++ origin).toList

/-- The lines about a resource. -/
def resourceLines (colours : Bool) (entry : ResourceEntry) : List String :=
  ("  " ++ paint colours .cyan (padRight 20 entry.name) ++
    " " ++ entry.pattern) ::
    (entry.description.map fun text => "  " ++ blanks 20 ++ " " ++ paint colours .faint text).toList

/-- A heading, and lines or a hint in their place. -/
def listing (colours : Bool) (title hint : String) (lines : List String) : List String :=
  "" :: paint colours .bold title ::
    if lines.isEmpty then ["  " ++ paint colours .faint hint] else lines

variable {m : Type → Type} [Monad m] [FileAccess m]

/-- The lines about sources of rule tables. -/
def tableLines (colours : Bool) : List String → m (List String)
  | [] => return []
  | path :: rest => do
    let marker := if ← pathExists path then paint colours .green "✓" else paint colours .red "✗"
    return ("  " ++ marker ++ " " ++ path) :: (← tableLines colours rest)

/-- All lines about a configuration. -/
def listLines (colours : Bool) (config : Config) : m (List String) := do
  let tables ← tableLines colours config.tables
  return settingLines colours config ++
    listing colours "Rule tables:" "(none) add one with: switchboard config add-table <path>"
      tables ++
    listing colours "Resources:"
      "(none) add one with: switchboard config add-resource <name> <pattern>"
      (config.resources.flatMap (resourceLines colours))

/-! ## Running -/

/-- The mark of success in front of a line. -/
def success (colours : Bool) (text : String) : String := paint colours .green "✓" ++ " " ++ text

variable [Console m]

/-- Loads the file for a command. -/
def withFile (path : String) (next : ConfigFile → m (Except CommandError Unit)) :
    m (Except CommandError Unit) := do
  match ← ConfigFile.load path with
  | .error e => return .error (.noConfig e)
  | .ok file => next file

/-- Makes a new file, unless there is one. -/
def runInit (colours : Bool) (path : String) : m (Except CommandError Unit) := do
  if ← pathExists path then
    printLines ["Config already exists at: " ++ path,
      "To reinitialize, please delete the existing config first."]
    return .ok ()
  else match ← ConfigFile.create path with
    | .error e => return .error (.config e)
    | .ok _ =>
      printLine (success colours ("Initialized config at: " ++ path))
      return .ok ()

/-- Checks a file. -/
def runValidate (colours : Bool) (file : ConfigFile) : m (Except CommandError Unit) := do
  match ← file.config.check with
  | .error e => return .error (.invalidConfig e)
  | .ok () =>
    printLines [success colours "Config is valid", "  Version: " ++ file.config.version,
      "  Tables: " ++ toString file.config.tables.length,
      "  Resources: " ++ toString file.config.resources.length]
    return .ok ()

/-- Adds a resource. -/
def runAddResource (colours : Bool) (entry : ResourceEntry) (file : ConfigFile) :
    m (Except CommandError Unit) := do
  match (← file.addResource entry).2 with
  | .error e => return .error (.addResource entry.name e)
  | .ok () =>
    printLine (success colours ("Added resource: " ++ entry.name ++ " -> " ++ entry.pattern))
    return .ok ()

/-- Whether an answer means yes. -/
def isYes (answer : String) : Bool := (trimBlank answer.toList).map Char.toLower = ['y']

/-- Asks whether a resource is to be removed. -/
def confirm (entry : ResourceEntry) : m (Except FileError Bool) := do
  printLine ("Remove resource '" ++ entry.name ++ "' (" ++ entry.pattern ++ ")?")
  Console.print "Continue? [y/N] "
  return (← Console.readLine).map isYes

/-- Removes a resource for good. -/
def removeNow (colours : Bool) (name : String) (file : ConfigFile) :
    m (Except CommandError Unit) := do
  match (← file.removeResource name).2 with
  | .error e => return .error (.removeResource name e)
  | .ok () =>
    printLine (success colours ("Removed resource: " ++ name))
    return .ok ()

/-- Removes a resource, after a question unless that is not wanted. -/
def runRemoveResource (colours : Bool) (name : String) (sure : Bool) (file : ConfigFile) :
    m (Except CommandError Unit) := do
  match file.config.resource? name with
  | none => return .error (.unknownResource name)
  | some entry =>
    if sure then removeNow colours name file
    else match ← confirm entry with
      | .error e => return .error (.input e)
      | .ok true => removeNow colours name file
      | .ok false =>
        printLine "Cancelled."
        return .ok ()

/-- Adds a source of rule tables. -/
def runAddTable (colours : Bool) (path : String) (file : ConfigFile) :
    m (Except CommandError Unit) := do
  match ← file.addTable path with
  | (_, .error e) => return .error (.addTable path e)
  | (file, .ok ()) =>
    printLine (success colours ("Added rule table: " ++ file.config.tables.getLast?.getD path))
    return .ok ()

/-- Runs a command on the file at a path. -/
def runAt (colours : Bool) (path : String) : ConfigCommand → m (Except CommandError Unit)
  | .init => runInit colours path
  | .showPath => do
    printLine path
    return .ok ()
  | .validate => withFile path (runValidate colours)
  | .list => withFile path fun file => do
    printLines (← listLines colours file.config)
    return .ok ()
  | .addResource entry => withFile path (runAddResource colours entry)
  | .removeResource name sure => withFile path (runRemoveResource colours name sure)
  | .addTable table => withFile path (runAddTable colours table)

/-- Runs a command on the file that is asked for, or on the usual one. -/
def run (environment : Environment) (explicit : Option String) (colours : Bool)
    (command : ConfigCommand) : m (Except CommandError Unit) :=
  match explicit, environment.configPath with
  | some path, _ | none, .ok path => command.runAt colours path
  | none, .error e => return .error (.config e)

end ConfigCommand

end RequestRouting
