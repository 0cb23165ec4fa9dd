import RequestRouting.Text.Quoted

/-!
# Errors of URL patterns, origins and resources

## Main definitions

* `PatternFault` — what can be wrong with the text of a pattern.
* `maxMatcherSize` — the greatest size of the regular expression that is made of a pattern.
* `UrlError` — the causes of failure when patterns are compiled and URLs are built.
* `UrlError.kind` — the names of the causes.
* `UrlError.message` — their wording.
-/

set_option autoImplicit false

namespace RequestRouting

/-- What can be wrong with the text of a pattern. -/
inductive PatternFault where
  /-- An opening brace inside a placeholder. -/
  | nestedBrace
  /-- An opening brace without a closing one. -/
  | unterminated
  /-- A closing brace without an opening one. -/
  | unbalanced
  /-- Nothing between the braces. -/
  | emptyPlaceholder
  /-- Nothing before, after or between points. -/
  | emptyName
  /-- A character that names may not contain. -/
  | badCharacter
  deriving DecidableEq

/-- The wording of a fault. -/
def PatternFault.message : PatternFault → String
  | .nestedBrace => "nested '\x7b' inside placeholder"
  | .unterminated => "unterminated placeholder"
  | .unbalanced => "unbalanced '\x7d'"
  | .emptyPlaceholder => "empty placeholder"
  | .emptyName => "empty property name in placeholder"
  | .badCharacter => "placeholder names may only contain letters, digits, '_' and '-'"

/-- What can be wrong with an origin. -/
inductive OriginFault where
  /-- No scheme. -/
  | relative
  /-- No host where there has to be one. -/
  | emptyHost
  /-- A port that is no number up to 65535. -/
  | badPort
  /-- A host of numbers that is no IPv4 address. -/
  | badIpv4
  /-- A host in brackets that is no IPv6 address. -/
  | badIpv6
  /-- A host that is no domain name. -/
  | badDomain
  /-- A host with a character that domain names of foreign schemes may not contain. -/
  | badDomainCharacter
  /-- A scheme without a default port. -/
  | scheme (name : String)
  /-- Something after the port. -/
  | trailing
  /-- A URL without a host. -/
  | missingHost
  deriving DecidableEq

/-- The wording of a fault. -/
def OriginFault.message : OriginFault → String
  | .relative => "relative URL without a base"
  | .emptyHost => "empty host"
  | .badPort => "invalid port number"
  | .badIpv4 => "invalid IPv4 address"
  | .badIpv6 => "invalid IPv6 address"
  | .badDomain => "invalid international domain name"
  | .badDomainCharacter => "invalid domain character"
  | .scheme name => "unsupported scheme " ++ quoteText name
  | .trailing => "origin must not carry a path, query or fragment"
  | .missingHost => "missing host"

/-- The greatest size in bytes of the regular expression that is made of a pattern, in its compiled
form. -/
def maxMatcherSize : Nat := 10485760

/-- The causes of failure when patterns are compiled and URLs are built. -/
inductive UrlError where
  /-- The text of a pattern is malformed at a byte position. -/
  | invalidPattern (pattern : String) (position : Nat) (fault : PatternFault)
  /-- The regular expression that is made of a pattern is too large. -/
  | matcherTooLarge
  /-- The property path of a placeholder meets no value at one of its names. -/
  | missingParameter (pattern placeholder segment : String)
  /-- A placeholder stands for an array or an object. -/
  | unprintableParameter (pattern placeholder : String)
  /-- A text is no origin. -/
  | invalidOrigin (input : String) (fault : OriginFault)
  /-- An absolute URL is asked for, and there is no origin. -/
  | missingOrigin
  /-- No resource has this name. -/
  | unknownResource (name : String)
  /-- There is a resource of this name already. -/
  | duplicateResource (name : String)
  deriving DecidableEq

namespace UrlError

/-- The name of the cause. -/
def kind : UrlError → String
  | .invalidPattern .. => "InvalidPattern"
  | .matcherTooLarge => "Matcher"
  | .missingParameter .. => "MissingParameter"
  | .unprintableParameter .. => "UnprintableParameter"
  | .invalidOrigin .. => "InvalidOrigin"
  | .missingOrigin => "MissingOrigin"
  | .unknownResource _ => "UnknownResource"
  | .duplicateResource _ => "DuplicateResource"

/-- The message of an error. -/
def message : UrlError → String
  | .invalidPattern pattern position fault =>
    "Invalid URL pattern " ++ quoteText pattern ++ " at byte " ++ toString position ++ ": " ++
      fault.message
  | .matcherTooLarge =>
    "Pattern matcher failed to compile: Compiled regex exceeds size limit of " ++
      toString maxMatcherSize ++ " bytes."
  | .missingParameter pattern placeholder segment =>
    "Missing parameter \x7b" ++ placeholder ++ "\x7d for pattern " ++ quoteText pattern ++
      " (no value at " ++ quoteText segment ++ ")"
  | .unprintableParameter pattern placeholder =>
    "Parameter \x7b" ++ placeholder ++ "\x7d for pattern " ++ quoteText pattern ++
      " is not a scalar"
  | .invalidOrigin input fault =>
    "Invalid origin " ++ quoteText input ++ ": " ++ fault.message
  | .missingOrigin => "No origin configured for absolute URLs"
  | .unknownResource name => "Unknown resource: " ++ name
  | .duplicateResource name => "Resource already defined: " ++ name

end UrlError

end RequestRouting
