import RequestRouting.Config.Basic
import RequestRouting.Config.Error
import RequestRouting.Files.Access

/-!
# Checks on configurations

What may be put into a configuration.

## Main definitions

* `checkName`, `checkPatternOf`, `checkOrigin` — names and patterns of resources, and origins.
* `checkTablePath` — the canonical path of a rule table that is there and can be read.
* `Config.check` — a whole configuration.
-/

set_option autoImplicit false

namespace RequestRouting

/-- The length of the longest name of a resource. -/
def maxResourceName : Nat := 64

/-- Whether a character may occur in the name of a resource. -/
def isResourceNameChar (c : Char) : Bool :=
  c.isLower || c.isDigit || c = '_' || c = '.' || c = '-'

/-- Whether a text may be the name of a resource. -/
def isResourceName (name : String) : Bool :=
  !name.isEmpty && name.utf8ByteSize ≤ maxResourceName && name.toList.all isResourceNameChar

/-- Checks the name of a resource. -/
def checkName (name : String) : Except SecurityFault Unit :=
  if isResourceName name then .ok () else .error (.invalidName name)

/-- Checks the pattern of a resource. -/
def checkPatternOf (name pattern : String) : Except SecurityFault Unit :=
  match UrlPattern.parse name pattern with
  | .ok _ => .ok ()
  | .error cause => .error (.invalidPattern name cause)

/-- Checks an origin. -/
def checkOrigin (origin : String) : Except SecurityFault Unit :=
  match Origin.parse origin with
  | .ok _ => .ok ()
  | .error cause => .error (.invalidOrigin cause)

/-- Checks a resource. -/
def checkEntry (entry : ResourceEntry) : Except SecurityFault Unit := do
  checkName entry.name
  checkPatternOf entry.name entry.pattern

/-- Checks resources one after another. -/
def checkEntries : List ResourceEntry → Except SecurityFault Unit
  | [] => .ok ()
  | entry :: rest => do
    checkEntry entry
    checkEntries rest

variable {m : Type → Type} [Monad m] [FileAccess m]

/-- Whether a path can be listed or read. -/
def isReadable (path : String) : m Bool := do
  if ← isDirectory path then return (← FileAccess.list path).isOk
  else return (← FileAccess.read path).isOk

/-- The canonical path of a rule table, which has to be there and to be readable. -/
def checkTablePath (path : String) : m (Except SecurityFault String) := do
  match ← FileAccess.canonical path with
  | .error _ => return .error (.pathDoesNotExist path)
  | .ok canonical =>
    return if ← isReadable canonical then .ok canonical else .error (.notReadable canonical)

/-- Checks the paths of rule tables one after another. -/
def checkTablePaths : List String → m (Except SecurityFault Unit)
  | [] => return .ok ()
  | path :: rest => do
    match ← checkTablePath path with
    | .error fault => return .error fault
    | .ok _ => checkTablePaths rest

/-- Checks a whole configuration: the origin, the resources one by one, the rule tables, and the
resources together. -/
def Config.check (config : Config) : m (Except ConfigError Unit) := do
  let parts := do
    match config.origin with
    | some origin => checkOrigin origin
    | none => .ok ()
    checkEntries config.resources
  match parts with
  | .error fault => return .error (.security fault)
  | .ok () =>
    match ← checkTablePaths config.tables with
    | .error fault => return .error (.security fault)
    | .ok () => return (config.compile.mapError .url).map fun _ => ()

end RequestRouting
