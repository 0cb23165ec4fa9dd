import RequestRouting.Json.Reader
import RequestRouting.Session.Dispatch

/-!
# Building URLs

## Main definitions

* `LinkRequest` — a resource and its parameters.
* `Link` — a resource and its URL.
* `Session.link` — builds the URL of a resource.
-/

set_option autoImplicit false

namespace RequestRouting

/-- Which URL is to be built. -/
structure LinkRequest where
  resource : String
  /-- The parameters, as JSON text. -/
  parameters : String
  /-- Whether values stay as they are, whatever the settings say. -/
  raw : Bool
  /-- Whether the origin is put in front. -/
  absolute : Bool

/-- A resource and its URL. -/
structure Link where
  resource : String
  url : String

/-- Builds the URL of a resource. -/
def Session.link (session : Session) (request : LinkRequest) : Except SessionError Link := do
  match Json.parse? request.parameters with
  | none => .error (.badParameters request.parameters)
  | some parameters =>
    let escape := session.settings.escapeUrls && !request.raw
    let resources ← session.resources
    let url :=
      if request.absolute then resources.absoluteUrlFor request.resource parameters escape
      else resources.urlFor request.resource parameters escape
    .ok ⟨request.resource, ← url.mapError (.url request.resource)⟩

instance : Presentable Link where
  toJson link := .object [("resource", .string link.resource), ("url", .string link.url)]
  render _ link := ofLines [link.url]

end RequestRouting
