import RequestRouting.Files.Error
import RequestRouting.Url.Error

/-!
# Errors of configurations

## Main definitions

* `SecurityFault` — what can be wrong with what is put into a configuration.
* `ConfigError` — the causes of failure when configurations are loaded, changed and saved.
* `ConfigError.kind`, `ConfigError.message` — their names and their wording.
* `ConfigError.chain` — the wording of an error and of what has caused it.
-/

set_option autoImplicit false

namespace RequestRouting

/-- What can be wrong with what is put into a configuration. -/
inductive SecurityFault where
  /-- Nothing at the path of a rule table. -/
  | pathDoesNotExist (path : String)
  /-- The path of a rule table cannot be read. -/
  | notReadable (path : String)
  /-- The name of a resource. -/
  | invalidName (name : String)
  /-- The pattern of a resource. -/
  | invalidPattern (name : String) (cause : UrlError)
  /-- The origin. -/
  | invalidOrigin (cause : UrlError)
  deriving DecidableEq

namespace SecurityFault

/-- The name of a fault. -/
def kind : SecurityFault → String
  | .pathDoesNotExist _ => "PathDoesNotExist"
  | .notReadable _ => "NotReadable"
  | .invalidName _ => "InvalidResourceName"
  | .invalidPattern .. => "InvalidPattern"
  | .invalidOrigin _ => "InvalidOrigin"

/-- The wording of a fault. -/
def message : SecurityFault → String
  | .pathDoesNotExist path => "Path does not exist: " ++ path
  | .notReadable path => "Path is not readable: " ++ path
  | .invalidName name =>
    "Invalid resource name: " ++ quoteText name ++
      ". Must be 1-64 characters of a-z, 0-9, '_', '.' or '-'"
  | .invalidPattern name cause =>
    "Invalid pattern for resource " ++ name ++ ": " ++ cause.message
  | .invalidOrigin cause => "Invalid origin: " ++ cause.message

end SecurityFault

/-- The causes of failure when configurations are loaded, changed and saved. -/
inductive ConfigError where
  /-- A file cannot be read or written. -/
  | file (cause : FileError)
  /-- The contents are no configuration. -/
  | malformed
  /-- Something is not fit to be in a configuration. -/
  | security (fault : SecurityFault)
  /-- A URL pattern or the origin is at fault. -/
  | url (cause : UrlError)
  /-- There is no configuration file. -/
  | notFound (path : String)
  /-- There is a configuration file already. -/
  | exists (path : String)
  /-- No resource has this name. -/
  | resourceNotFound (name : String)
  /-- There is a resource of this name already. -/
  | resourceExists (name : String)
  /-- The rule table is configured already. -/
  | tableExists (path : String)
  /-- Nobody knows where the configuration file would be. -/
  | noHome
  deriving DecidableEq

namespace ConfigError

/-- The name of the cause. -/
def kind : ConfigError → String
  | .file _ => "Io"
  | .malformed => "TomlDe"
  | .security fault => "Security." ++ fault.kind
  | .url cause => "Url." ++ cause.kind
  | .notFound _ => "ConfigNotFound"
  | .exists _ => "ConfigExists"
  | .resourceNotFound _ => "ResourceNotFound"
  | .resourceExists _ => "ResourceExists"
  | .tableExists _ => "TableExists"
  | .noHome => "HomeNotFound"

/-- What is said about contents that are no configuration. -/
def malformedText : String := "TOML parse error: the document is no configuration"

/-- The message of an error. -/
def message : ConfigError → String
  | .file cause => "IO error: " ++ cause.message
  | .malformed => "TOML deserialization error: " ++ malformedText
  | .security fault => "Security error: " ++ fault.message
  | .url cause => cause.message
  | .notFound path => "Config file not found at " ++ path
  | .exists path => "Config file already exists at " ++ path
  | .resourceNotFound name => "Resource not found: " ++ name
  | .resourceExists name => "Resource already exists: " ++ name
  | .tableExists path => "Rule table already configured: " ++ path
  | .noHome => "Home directory not found"

/-- The message of an error, followed by that of what has caused it. -/
def chain (error : ConfigError) : List String :=
  error.message :: match error with
    | .file cause => [cause.message]
    | .malformed => [malformedText]
    | .security fault => [fault.message]
    | _ => []

end ConfigError

end RequestRouting
