import RequestRouting.Config.Check

/-!
# Configuration files

A configuration together with the file that it is kept in.  Every change is checked and saved at
once; a change that cannot be saved stays in memory.

## Main definitions

* `ConfigFile` — a configuration and its path.
* `ConfigFile.load`, `ConfigFile.create`, `ConfigFile.save` — between file and memory.
* `ConfigFile.addResource`, `ConfigFile.removeResource`, `ConfigFile.addTable` — the changes.
* `Environment`, `Environment.configPath?` — where the configuration file is.
-/

set_option autoImplicit false

namespace RequestRouting

/-- The variables of the environment that matter. -/
structure Environment where
  /-- The home directory. -/
  home : Option String
  /-- The path of the configuration file. -/
  config : Option String
  /-- A directory with rule tables. -/
  rulesDirectory : Option String

/-- The path of the configuration file: the one that the environment names, or the usual one in the
home directory. -/
def Environment.configPath (environment : Environment) : Except ConfigError String :=
  match environment.config, environment.home with
  | some path, home =>
    if path.isEmpty then
      match home with
      | some home => .ok (usual home)
      | none => .error .noHome
    else .ok path
  | none, some home => .ok (usual home)
  | none, none => .error .noHome
where
  /-- The usual path in a home directory. -/
  usual (home : String) : String := Path.join (Path.join home ".switchboard") "config.toml"

/-- A configuration and the path of the file that it is kept in. -/
structure ConfigFile where
  path : String
  config : Config
  deriving DecidableEq

namespace ConfigFile

variable {m : Type → Type} [Monad m] [FileAccess m]

/-- The path of the file that is written before it takes the place of the old one. -/
def draftPath (path : String) : String := Path.withExtension path "toml.tmp"

/-- Goes on after a step on files that has not failed. -/
def andThen {α : Type} (step : m (Except FileError α)) (next : α → m (Except ConfigError Unit)) :
    m (Except ConfigError Unit) := do
  match ← step with
  | .error e => return .error (.file e)
  | .ok value => next value

/-- Writes the configuration to a draft that only the owner may read, and moves the draft to the
path of the file. -/
def save (file : ConfigFile) : m (Except ConfigError Unit) :=
  let draft := draftPath file.path
  andThen (FileAccess.write draft file.config.toText.toUTF8) fun () =>
  andThen (FileAccess.protect draft) fun () =>
  andThen (FileAccess.rename draft file.path) fun () => return .ok ()

/-- Reads a configuration file. -/
def load (path : String) : m (Except ConfigError ConfigFile) := do
  if ← pathExists path then
    match ← readText path with
    | .error e => return .error (.file e)
    | .ok text =>
      match Config.ofText? text with
      | none => return .error .malformed
      | some config => return .ok ⟨path, config⟩
  else return .error (.notFound path)

/-- Makes the directory of a new file. -/
def makeParent (path : String) : m (Except FileError Unit) :=
  match Path.parent? path with
  | some parent => makeDirectories parent
  | none => return .ok ()

/-- Makes a new configuration file; nothing may be at its path. -/
def create (path : String) : m (Except ConfigError ConfigFile) := do
  if ← pathExists path then return .error (.exists path)
  else
    let file : ConfigFile := ⟨path, .byDefault⟩
    return (← andThen (makeParent path) fun () => file.save).map fun () => file

/-- Replaces the configuration in memory and saves it. -/
def change (file : ConfigFile) (config : Config) : m (ConfigFile × Except ConfigError Unit) := do
  let file := { file with config := config }
  return (file, ← file.save)

/-- Adds a resource under a new name. -/
def addResource (file : ConfigFile) (entry : ResourceEntry) :
    m (ConfigFile × Except ConfigError Unit) :=
  match checkEntry entry with
  | .error fault => return (file, .error (.security fault))
  | .ok () =>
    if (file.config.resource? entry.name).isSome then
      return (file, .error (.resourceExists entry.name))
    else file.change { file.config with resources := file.config.resources ++ [entry] }

/-- Removes the first resource with a name. -/
def removeResource (file : ConfigFile) (name : String) :
    m (ConfigFile × Except ConfigError Unit) :=
  if (file.config.resource? name).isSome then
    file.change { file.config with
      resources := file.config.resources.eraseP fun entry => entry.name = name }
  else return (file, .error (.resourceNotFound name))

/-- Adds a source of rule tables under its canonical path. -/
def addTable (file : ConfigFile) (path : String) : m (ConfigFile × Except ConfigError Unit) := do
  match ← checkTablePath path with
  | .error fault => return (file, .error (.security fault))
  | .ok canonical =>
    if file.config.tables.any (Path.same canonical) then return (file, .error (.tableExists canonical))
    else file.change { file.config with tables := file.config.tables ++ [canonical] }

end ConfigFile

end RequestRouting
