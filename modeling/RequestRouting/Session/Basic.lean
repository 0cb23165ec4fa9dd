import RequestRouting.Condition.Registry
import RequestRouting.Config.File
import RequestRouting.Dispatch
import RequestRouting.Rule.Loader
import RequestRouting.Session.Request

/-!
# Sessions

A session is what one invocation of the program works with: the configuration, if there is one, and
the sources of rule tables.

## Main definitions

* `Session.start` — loads the configuration.
* `Session.settings`, `Session.sources`, `Session.resources` — what follows from it.
* `Session.tables` — loads the rule tables.
* `effectiveMode` — the mode in which tables are dispatched.
* `buildDispatcher` — a dispatcher that records the calls of handlers.
-/

set_option autoImplicit false

namespace RequestRouting

/-- What one invocation of the program works with. -/
structure Session where
  config : Option ConfigFile
  environment : Environment

namespace Session

variable {m : Type → Type} [Monad m] [FileAccess m]

/-- Loads the usual configuration file, which need not be there. -/
def loadUsual (environment : Environment) : m (Except SessionError (Option ConfigFile)) := do
  match environment.configPath with
  | .error e => return .error (.usualConfig e)
  | .ok path =>
    match ← ConfigFile.load path with
    | .ok file => return .ok (some file)
    | .error (.notFound _) => return .ok none
    | .error e => return .error (.usualConfig e)

/-- Starts a session with the configuration file at a path, or with the usual one. -/
def start (environment : Environment) (explicit : Option String) :
    m (Except SessionError Session) := do
  match explicit with
  | some path =>
    match ← ConfigFile.load path with
    | .ok file => return .ok ⟨some file, environment⟩
    | .error e => return .error (.configFile path e)
  | none => return (← loadUsual environment).map fun config => ⟨config, environment⟩

/-- The settings of the configuration. -/
def settings (session : Session) : Settings :=
  match session.config with
  | some file => file.config.settings
  | none => .byDefault

/-- The rule tables of the configuration. -/
def configured (session : Session) : List String :=
  match session.config with
  | some file => file.config.tables
  | none => []

/-- The sources of rule tables: that of the environment, those of the configuration, and more. -/
def sources (session : Session) (extra : List String) : m (List String) := do
  return (← environmentSources session.environment.rulesDirectory) ++ session.configured ++ extra

/-- Loads the rule tables of all sources, of which there has to be one. -/
def tables (session : Session) (extra : List String) :
    m (Except SessionError (List LoadedTable)) := do
  let sources ← session.sources extra
  if sources.isEmpty then return .error .noTables
  else return (← loadTables sources).mapError .tables

/-- The resources of the configuration. -/
def resources (session : Session) : Except SessionError Resources :=
  match session.config with
  | some file => file.config.compile.mapError .resources
  | none => .ok .empty

end Session

/-- The mode in which tables are dispatched.  A table that is alone may say so itself. -/
def effectiveMode (tables : List LoadedTable) (settings : Settings) : DispatchMode :=
  match tables with
  | [single] => (single.table.info.bind TableInfo.mode).getD settings.mode
  | _ => settings.mode

/-- The names of the handlers that rules mention. -/
def handlerNames (rules : List RuleSpec) : List String :=
  rules.flatMap fun rule => rule.actions.filterMap ActionSpec.handler

/-- A handler that does nothing; that it was called is on record anyway. -/
def recordingHandler : Handler := fun _ knowledge => .finish knowledge (.ok ())

/-- Handlers for all names that rules mention. -/
def recordingHandlers (rules : List RuleSpec) : Handlers :=
  (handlerNames rules).foldl (fun acc name => acc.register name recordingHandler) .empty

/-- The name of the observer that records attempts. -/
def attemptObserver : String := "attempts"

/-- A dispatcher over rules that records attempts and the calls of handlers. -/
def buildDispatcher (rules : List RuleSpec) (settings : Settings) :
    Except SessionError Dispatcher := do
  let handlers := recordingHandlers rules
  let compiled ← (RuleSpec.compileAll .builtins handlers.names rules).mapError .rules
  let book ← (RuleBook.ofRules compiled).mapError .rules
  .ok ⟨book, ⟨handlers, ⟨[attemptObserver], []⟩, settings.clearExtractors⟩, settings.mode⟩

end RequestRouting
