import RequestRouting.Files.Error
import RequestRouting.Json.Printer
import RequestRouting.Regex.Basic
import RequestRouting.Request.Error
import RequestRouting.Url.Error

/-!
# Errors of rules

## Main definitions

* `OptionFault` — what can be wrong with the options of a condition.
* `RegistryFault`, `ActionFault`, `LoadFault` — what can be wrong with registrations, with the
  actions of a rule and with files of rules.
* `RuleError` — the causes of failure when rules are built, loaded and run.
* `RuleError.kind` — the names of the causes.
* `RuleError.message` — their wording.
-/

set_option autoImplicit false

namespace RequestRouting

/-- The deepest nesting of Boolean conditions. -/
def maxConditionDepth : Nat := 8

/-- What can be wrong with the options of a condition. -/
inductive OptionFault where
  /-- An option is no string. -/
  | notAString (key : String) (got : Json)
  /-- A mandatory option is absent. -/
  | missing (key : String)
  /-- An option is neither a string nor an array. -/
  | notStrings (key : String) (got : Json)
  /-- An item of an array option is no string. -/
  | entryNotAString (key : String) (got : Json)
  /-- Options that the kind does not have. -/
  | unknownOptions (keys : List String)
  /-- The source of a path condition. -/
  | unknownSource (text : String)
  /-- A delimiter without characters. -/
  | emptyDelimiter
  /-- A pattern that does not compile. -/
  | badRegex (key : String) (cause : Regex.Error)
  /-- A chunk option without an index. -/
  | malformedChunkKey (key : String)
  /-- A chunk option that is no string. -/
  | chunkNotAString (key : String)
  /-- A path condition without any pattern. -/
  | noPathPattern
  /-- The scope of a parameter condition. -/
  | unknownScope (text : String)
  /-- A comparison without a value. -/
  | missingValue
  /-- The operator of a parameter condition. -/
  | unknownParamOperator (text : String)
  /-- The operator of an authentication condition. -/
  | unknownAuthOperator (text : String)
  /-- The operator of a Boolean condition. -/
  | unknownBoolOperator (text : String)
  /-- A Boolean condition deeper than allowed. -/
  | tooDeep (depth : Nat)
  /-- A Boolean condition without parts. -/
  | noConditions
  /-- Parts that are no array. -/
  | conditionsNotAnArray (got : Json)
  /-- A part that is no table. -/
  | conditionNotATable (got : Json)
  /-- An empty list of methods. -/
  | noMethod
  /-- A path template that does not compile. -/
  | badPath (cause : UrlError)
  /-- A request condition without anything to check. -/
  | noRequestTest
  /-- A type that is no string. -/
  | typeNotAString (got : Json)
  /-- No type at all. -/
  | noType
  /-- A fault that a condition from outside of the library reports. -/
  | custom (text : String)

/-- The wording of a fault. -/
def OptionFault.message : OptionFault → String
  | .notAString key got => "`" ++ key ++ "` must be a string, got " ++ got.compact
  | .missing key => "missing mandatory option `" ++ key ++ "`"
  | .notStrings key got =>
    "`" ++ key ++ "` must be a string or an array of strings, got " ++ got.compact
  | .entryNotAString key got => "`" ++ key ++ "` entries must be strings, got " ++ got.compact
  | .unknownOptions keys => "unknown option(s): " ++ ", ".intercalate keys
  | .unknownSource text =>
    "unknown source " ++ quoteText text ++ " (expected request or extra)"
  | .emptyDelimiter => "`delimiter` must not be empty"
  | .badRegex key cause => "`" ++ key ++ "`: Invalid pattern: " ++ cause.message
  | .malformedChunkKey key => "malformed chunk key " ++ quoteText key ++ " (expected chunk[N])"
  | .chunkNotAString key => "`" ++ key ++ "` must be a regex string"
  | .noPathPattern => "needs `pattern` or at least one `chunk[N]`"
  | .unknownScope text => (RequestError.unknownScope text).message
  | .missingValue => "operator `equal` needs a `value`"
  | .unknownParamOperator text =>
    "unknown operator " ++ quoteText text ++ " (expected isset, equal, regexp or isnumeric)"
  | .unknownAuthOperator text =>
    "unknown operator " ++ quoteText text ++ " (expected isuser, isanon or ingroup)"
  | .unknownBoolOperator text =>
    "unknown operator " ++ quoteText text ++ " (expected and, or or not)"
  | .tooDeep depth =>
    "nested " ++ toString depth ++ " levels deep (maximum is " ++ toString maxConditionDepth ++ ")"
  | .noConditions => "`conditions` must list at least one condition"
  | .conditionsNotAnArray got => "`conditions` must be an array, got " ++ got.compact
  | .conditionNotATable got => "condition entries must be tables, got " ++ got.compact
  | .noMethod => "`method` must name at least one method"
  | .badPath cause => "`path`: " ++ cause.message
  | .noRequestTest => "needs `method` or `path`"
  | .typeNotAString got => "`type` must be a string, got " ++ got.compact
  | .noType => "condition table has no `type`"
  | .custom text => text

/-- What can be wrong with a registration. -/
inductive RegistryFault where
  /-- A condition type without characters. -/
  | emptyTag
  /-- A character that condition types may not contain. -/
  | badTagCharacter (tag : String) (c : Char)
  /-- The condition type is taken. -/
  | duplicateTag (tag : String)
  deriving DecidableEq

/-- The wording of a fault. -/
def RegistryFault.message : RegistryFault → String
  | .emptyTag => "condition type must not be empty"
  | .badTagCharacter tag c =>
    "condition type '" ++ tag ++ "' contains invalid character " ++ quoteChar c
  | .duplicateTag tag => "condition type '" ++ tag ++ "' is already registered"

/-- What can be wrong with the description of an action. -/
inductive ActionFault where
  /-- Not exactly one of its four fields is set. -/
  | fieldCount (given : Nat)
  deriving DecidableEq

/-- The wording of a fault. -/
def ActionFault.message : ActionFault → String
  | .fieldCount given =>
    "an action sets exactly one of handler, bind, set or log (" ++ toString given ++ " given)"

/-- What can be wrong with a file of rules. -/
inductive LoadFault where
  /-- The file cannot be read. -/
  | file (cause : FileError)
  /-- A directory inside of a directory of rule tables cannot be read. -/
  | directory (path : String) (cause : FileError)
  /-- The file is too large. -/
  | tooLarge
  /-- The contents are no rule table. -/
  | malformed
  /-- A pattern in a rule is too long. -/
  | patternTooLong (pattern : String)
  /-- A pattern in a rule does not compile. -/
  | badPattern (cause : Regex.Error)
  deriving DecidableEq

/-- The wording of a fault. -/
def LoadFault.message : LoadFault → String
  | .file cause => cause.message
  | .directory path cause => "IO error for operation on " ++ path ++ ": " ++ cause.message
  | .tooLarge => "File exceeds maximum size of 1MB"
  | .malformed => "TOML parse error: the document is no rule table"
  | .patternTooLong pattern =>
    "Regex pattern exceeds " ++ toString Regex.maxLength ++ " characters: " ++ pattern
  | .badPattern cause => "Invalid pattern: " ++ cause.message

/-- The causes of failure when rules are built, loaded and run. -/
inductive RuleError where
  /-- A regular expression does not compile. -/
  | invalidPattern (cause : Regex.Error)
  /-- No condition type has this tag. -/
  | unknownConditionType (tag : String)
  /-- The options of a condition are wrong. -/
  | invalidCondition (kind : String) (fault : OptionFault)
  /-- A registration is refused. -/
  | registry (fault : RegistryFault)
  /-- A fact that is needed is absent. -/
  | missingFact (name : String)
  /-- A fact that has to be a scalar is none. -/
  | invalidFact (name : String)
  /-- There is a rule of this name already. -/
  | duplicateRule (name : String)
  /-- No action handler has this name. -/
  | unknownHandler (name : String)
  /-- The description of an action of a rule is wrong. -/
  | invalidAction (rule : String) (fault : ActionFault)
  /-- An action of a rule has failed. -/
  | actionFailed (rule : String) (cause : String)
  /-- A file of rules cannot be loaded. -/
  | load (path : String) (fault : LoadFault)
  /-- A URL pattern is at fault. -/
  | url (cause : UrlError)

namespace RuleError

/-- The name of the cause. -/
def kind : RuleError → String
  | .invalidPattern _ => "InvalidPattern"
  | .unknownConditionType _ => "UnknownConditionType"
  | .invalidCondition .. => "InvalidCondition"
  | .registry _ => "Registry"
  | .missingFact _ => "MissingFact"
  | .invalidFact _ => "InvalidFact"
  | .duplicateRule _ => "DuplicateRule"
  | .unknownHandler _ => "UnknownHandler"
  | .invalidAction .. => "InvalidAction"
  | .actionFailed .. => "Action"
  | .load .. => "LoadError"
  | .url cause => "Url." ++ cause.kind

/-- The message of an error. -/
def message : RuleError → String
  | .invalidPattern cause => "Invalid pattern: " ++ cause.message
  | .unknownConditionType tag => "Unknown condition type: " ++ tag
  | .invalidCondition kind fault => "Invalid " ++ kind ++ " condition: " ++ fault.message
  | .registry fault => "Registry error: " ++ fault.message
  | .missingFact name => "Missing fact: " ++ name
  | .invalidFact name => "Fact '" ++ name ++ "' must be a scalar"
  | .duplicateRule name => "Duplicate rule: " ++ name
  | .unknownHandler name => "Unknown action handler: " ++ name
  | .invalidAction rule fault =>
    "Invalid action in rule '" ++ rule ++ "': " ++ fault.message
  | .actionFailed rule cause => "Action of rule '" ++ rule ++ "' failed: " ++ cause
  | .load path fault => "Failed to load rules from " ++ path ++ ": " ++ fault.message
  | .url cause => cause.message

end RuleError

end RequestRouting
