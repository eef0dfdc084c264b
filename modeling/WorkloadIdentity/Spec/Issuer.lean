import WorkloadIdentity.Text.Quoted
import WorkloadIdentity.Url.Basic

namespace WorkloadIdentity.Issuer

/-- The rule that an issuer breaks. -/
def flaw? (issuer : String) : Option String :=
  match Url.parse issuer with
  | .error fault => some ("jwtIssuer: " ++ fault.message)
  | .ok url =>
    if url.scheme ≠ "https" then
      some ("jwtIssuer: scheme must be https, got " ++ quoted url.scheme)
    else
      match url.host with
      | none => some "jwtIssuer: missing host"
      | some host => if host = "" then some "jwtIssuer: missing host" else none

/-- The host of an issuer. -/
def host? (issuer : String) : Option String :=
  match Url.parse issuer with
  | .error _ => none
  | .ok url => url.host

end WorkloadIdentity.Issuer
