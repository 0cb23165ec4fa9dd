import RequestRouting.Config.Error
import RequestRouting.Rule.Error

/-!
# Errors of sessions

## Main definitions

* `SessionError` — why a request cannot be dispatched, a table not checked or a URL not built.
* `SessionError.chain` — the wording, from what was attempted down to what has gone wrong.
-/

set_option autoImplicit false

namespace RequestRouting

/-- The message of an error of rules, followed by that of what has caused it. -/
def RuleError.chain (error : RuleError) : List String :=
  error.message :: match error with
    | .load _ fault => [fault.message]
    | .actionFailed _ cause => [cause]
    | _ => []

/-- Why a session cannot do what it is asked for. -/
inductive SessionError where
  /-- The configuration file that is asked for cannot be loaded. -/
  | configFile (path : String) (cause : ConfigError)
  /-- The usual configuration file cannot be loaded. -/
  | usualConfig (cause : ConfigError)
  /-- There is no source of rule tables. -/
  | noTables
  /-- The rule tables cannot be loaded. -/
  | tables (cause : RuleError)
  /-- The rule tables cannot be compiled. -/
  | rules (cause : RuleError)
  /-- The resources of the configuration cannot be compiled. -/
  | resources (cause : UrlError)
  /-- The description of the request is wrong. -/
  | request (cause : RequestError)
  /-- Groups are given, and nobody who would belong to them. -/
  | groupsWithoutUser
  /-- The dispatch has failed. -/
  | dispatch (method path : String) (cause : RuleError)
  /-- The parameters of a URL are no JSON value. -/
  | badParameters (text : String)
  /-- The URL of a resource cannot be built. -/
  | url (resource : String) (cause : UrlError)

namespace SessionError

/-- What is said about parameters that are no JSON value. -/
def badJson : String := "JSON parse error: the text is no value"

/-- The wording of an error: what was attempted, and then what has gone wrong. -/
def chain : SessionError → List String
  | .configFile path cause => ("Failed to load config " ++ path) :: cause.chain
  | .usualConfig cause => "Failed to load config" :: cause.chain
  | .noTables =>
    ["No rule tables given. Pass table paths, set SWITCHBOARD_RULES_DIR, or run " ++
      "'switchboard config add-table <path>'."]
  | .tables cause => "Failed to load rule tables" :: cause.chain
  | .rules cause => "Failed to compile rule tables" :: cause.chain
  | .resources cause => ["Invalid resources in config", cause.message]
  | .request cause => [cause.message]
  | .groupsWithoutUser => ["--group requires --user"]
  | .dispatch method path cause =>
    ("Dispatch of " ++ method ++ " " ++ path ++ " failed") :: cause.chain
  | .badParameters text => ["--params is not valid JSON: " ++ text, badJson]
  | .url resource cause => ["Failed to build URL for '" ++ resource ++ "'", cause.message]

end SessionError

end RequestRouting
