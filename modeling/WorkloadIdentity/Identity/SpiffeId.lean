import WorkloadIdentity.Fault
import WorkloadIdentity.Identity.TrustDomain
import WorkloadIdentity.Url.Basic

namespace WorkloadIdentity

/-- The identity of a workload. The path is empty, or each of its segments is neither empty nor
relative. -/
structure SpiffeId where
  trustDomain : String
  path : String
deriving DecidableEq, Repr

namespace TrustDomain

/-- Accepts a trust domain or tells its first flaw. -/
def check (domain : String) : Except Fault Unit :=
  match flaw? domain with
  | some flaw => .error (.trustDomain domain flaw.message)
  | none => .ok ()

end TrustDomain

namespace SpiffeId

/-- Splits a list at every slash. -/
def splitSlash (cs : List Char) : List (List Char) :=
  cs.foldr (fun c parts =>
    if c = '/' then [] :: parts
    else match parts with
      | p :: rest => (c :: p) :: rest
      | [] => [[c]]) [[]]

def isBadSegment (s : List Char) : Bool := s = [] || s = ['.'] || s = ['.', '.']

/-- The first rule that a path breaks. -/
def pathFlaw? (path : String) : Option String :=
  let cs := path.toList
  if cs = [] then none
  else if cs.head? ≠ some '/' then some ("path " ++ quoted path ++ " must start with '/'")
  else if cs.getLast? = some '/' then some ("path " ++ quoted path ++ " must not end with '/'")
  else if ((splitSlash cs).drop 1).any isBadSegment then
    some ("path " ++ quoted path ++ " contains an empty or relative segment")
  else none

def new (trustDomain path : String) : Except Fault SpiffeId :=
  match TrustDomain.check trustDomain with
  | .error f => .error f
  | .ok () =>
    match pathFlaw? path with
    | some flaw => .error (.spiffeId flaw)
    | none => .ok ⟨trustDomain, path⟩

/-- Reads the written form. -/
def ofUri (uri : String) : Except Fault SpiffeId :=
  match Url.parse uri with
  | .error fault => .error (.spiffeId (uri ++ ": " ++ fault.message))
  | .ok url =>
    if url.scheme ≠ "spiffe" then
      .error (.spiffeId ("unsupported scheme " ++ quoted url.scheme))
    else if url.query.isSome || url.fragment.isSome then
      .error (.spiffeId "query and fragment are not allowed")
    else
      match url.host with
      | none => .error (.spiffeId "missing trust domain")
      | some host => new host url.path

/-- The identity of a service account. -/
def forServiceAccount (trustDomain namespaceName serviceAccount : String) :
    Except Fault SpiffeId :=
  new trustDomain ("/ns/" ++ namespaceName ++ "/sa/" ++ serviceAccount)

/-- The written form. -/
def uri (id : SpiffeId) : String := "spiffe://" ++ id.trustDomain ++ id.path

end SpiffeId

end WorkloadIdentity
