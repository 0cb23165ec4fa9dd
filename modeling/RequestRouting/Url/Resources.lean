import RequestRouting.Url.Origin
import RequestRouting.Url.Pattern

/-!
# Resources

Named URL patterns, from which the URLs of a program are built.

## Main definitions

* `Resources` — patterns by their names, and the origin of absolute URLs.
* `Resources.insert` — adds a pattern under a new name.
* `Resources.urlFor`, `Resources.absoluteUrlFor` — the URL of a resource.
-/

set_option autoImplicit false

namespace RequestRouting

/-- Patterns by their names, and the origin of absolute URLs. -/
structure Resources where
  /-- The patterns, all of which compile. -/
  patterns : Dict UrlPattern
  origin : Option Origin

namespace Resources

/-- No resources. -/
def empty : Resources := ⟨.empty, none⟩

/-- Sets the origin. -/
def withOrigin (resources : Resources) (origin : Origin) : Resources :=
  { resources with origin := some origin }

/-- Adds a pattern under a new name. -/
def insert (resources : Resources) (name pattern : String) : Except UrlError Resources :=
  if resources.patterns.has name then .error (.duplicateResource name)
  else (UrlPattern.parse name pattern).map fun pattern =>
    { resources with patterns := resources.patterns.insert name pattern }

/-- The pattern with a name. -/
def get? (resources : Resources) (name : String) : Option UrlPattern :=
  resources.patterns.get? name

/-- The names and the texts of the patterns, in the order of the names. -/
def toList (resources : Resources) : List (String × String) :=
  resources.patterns.entries.map fun (name, pattern) => (name, pattern.text)

/-- The URL of a resource. -/
def urlFor (resources : Resources) (name : String) (params : Json) (escape : Bool) :
    Except UrlError String :=
  match resources.get? name with
  | some pattern => pattern.build params escape
  | none => .error (.unknownResource name)

/-- The absolute URL of a resource. -/
def absoluteUrlFor (resources : Resources) (name : String) (params : Json) (escape : Bool) :
    Except UrlError String :=
  match resources.origin with
  | none => .error .missingOrigin
  | some origin => (resources.urlFor name params escape).map origin.absolute

end Resources

end RequestRouting
