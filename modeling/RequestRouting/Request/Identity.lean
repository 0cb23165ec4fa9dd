/-!
# Identities

Who makes a request, and which groups the known identities belong to.

## Main definitions

* `Identity` — the current identity, if any, and all memberships.
* `Identity.isMember` — whether an identity belongs to a group.
-/

set_option autoImplicit false

namespace RequestRouting

/-- Who makes a request.  Memberships of others are known too. -/
structure Identity where
  /-- The name of the one who makes the request; `none` for an anonymous request. -/
  current : Option String
  /-- Pairs of an identity and a group that it belongs to. -/
  memberships : List (String × String)
  deriving DecidableEq, Inhabited

namespace Identity

/-- An anonymous request. -/
def anonymous : Identity := ⟨none, []⟩

/-- A request by a named identity. -/
def user (name : String) : Identity := ⟨some name, []⟩

/-- Adds a membership of any identity. -/
def withMembership (identity : Identity) (member group : String) : Identity :=
  { identity with memberships := (member, group) :: identity.memberships }

/-- Adds a membership of the current identity; an anonymous one belongs to nothing. -/
def withGroup (identity : Identity) (group : String) : Identity :=
  match identity.current with
  | some name => identity.withMembership name group
  | none => identity

/-- Whether an identity belongs to a group. -/
def isMember (identity : Identity) (member group : String) : Bool :=
  identity.memberships.contains (member, group)

/-- Whether the request is not anonymous. -/
def isKnown (identity : Identity) : Bool := identity.current.isSome

end Identity

end RequestRouting
