import RequestPipeline.Identity.Principal
import RequestPipeline.Http.Header
import RequestPipeline.Failure
import RequestPipeline.Text.Split

/-!
# Authenticators

An authenticator looks at the header fields of a request and finds the principal, none, or a reason to
refuse the request.  `Authenticator.byHeader` believes what a gateway in front has written into two
fields; `Authenticator.anonymous` finds nobody.
-/

namespace RequestPipeline

abbrev Authenticator := Headers → Except Failure (Option Principal)

namespace Authenticator

def idHeader : String := "x-principal-id"

/-- the field with the roles of the caller, separated by commas -/
def rolesHeader : String := "x-principal-roles"

def anonymous : Authenticator := fun _ => .ok none

def refuse (f : Failure) : Authenticator := fun _ => .error f

/-- takes the caller and its roles from header fields -/
def byHeader : Authenticator := fun headers =>
  match headers.get? idHeader with
  | none => .ok none
  | some raw =>
    match (headerText? raw).bind fun s => Text.int64? (Text.trimChars s.toList) with
    | none => .error (.unauthorized "malformed principal id")
    | some id =>
      let roles := match headers.text? rolesHeader with
        | some s => Text.commaParts s
        | none => []
      .ok (some ⟨id, Roles.ofList roles⟩)

end Authenticator
end RequestPipeline
