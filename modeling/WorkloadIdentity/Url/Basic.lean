import WorkloadIdentity.Url.Address
import WorkloadIdentity.Url.Domain
import WorkloadIdentity.Url.Percent

/-! An absolute URL is read leniently: blanks around it and tabs and line breaks inside it are
dropped, the scheme is lower-cased, relative segments of the path are resolved, and the host is
normalised. The schemes of the web (`special`) take any number of slashes, or backslashes, before
the host and write it as a domain name or an address; other schemes keep the host's letters. -/

namespace WorkloadIdentity

/-- What can be wrong with a URL. -/
inductive UrlFault where
  | noScheme
  | emptyHost
  | badPort
  | badIpv4
  | badIpv6
  | badHostCharacter
  | badDomain
deriving DecidableEq, Repr

namespace UrlFault

def message : UrlFault → String
  | noScheme => "relative URL without a base"
  | emptyHost => "empty host"
  | badPort => "invalid port number"
  | badIpv4 => "invalid IPv4 address"
  | badIpv6 => "invalid IPv6 address"
  | badHostCharacter => "invalid domain character"
  | badDomain => "invalid international domain name"

end UrlFault

/-- A URL without its user and password. -/
structure Url where
  scheme : String
  /-- The host as it is written; `none` where there is none. -/
  host : Option String
  port : Option Nat
  path : String
  query : Option String
  fragment : Option String
deriving DecidableEq, Repr

namespace Url

/-- How the part behind the scheme is read. -/
inductive SchemeClass where
  | file
  | special
  | other
deriving DecidableEq

def classify (scheme : String) : SchemeClass :=
  if scheme = "file" then .file
  else if scheme ∈ ["http", "https", "ws", "wss", "ftp"] then .special
  else .other

def defaultPort : String → Option Nat
  | "http" => some 80
  | "ws" => some 80
  | "https" => some 443
  | "wss" => some 443
  | "ftp" => some 21
  | _ => none

def isOuterBlank (c : Char) : Bool := c.toNat ≤ 32

/-- The characters that count: blanks and controls at the ends are dropped, and tabs and line
breaks everywhere. -/
def significant (text : String) : List Char :=
  let cs := text.toList.dropWhile isOuterBlank
  let cs := (cs.reverse.dropWhile isOuterBlank).reverse
  cs.filter (fun c => c ≠ '\t' && c ≠ '\n' && c ≠ '\r')

def isSchemeChar (c : Char) : Bool := c.isAlphanum || c = '+' || c = '-' || c = '.'

/-- The scheme in lower case and what follows the colon. -/
def splitScheme (cs : List Char) : Option (String × List Char) :=
  match cs with
  | [] => none
  | c :: _ =>
    if !c.isAlpha then none
    else
      match cs.dropWhile isSchemeChar with
      | ':' :: rest => some (String.ofList ((cs.takeWhile isSchemeChar).map Char.toLower), rest)
      | _ => none

/-- Whether a character ends the authority. -/
def endsAuthority (special : Bool) (c : Char) : Bool :=
  c = '/' || c = '?' || c = '#' || (special && c = '\\')

/-- What stands before the last `@` of a text, and what stands behind it. -/
def splitLastAt (cs : List Char) : Option (List Char × List Char) :=
  if cs.contains '@' then
    let back := cs.reverse.takeWhile (· ≠ '@')
    some (cs.take (cs.length - back.length - 1), back.reverse)
  else none

/-- Drops the user and the password; the flag tells whether one of them is not empty. -/
def dropUser (special : Bool) (cs : List Char) : Except UrlFault (Bool × List Char) :=
  let authority := cs.takeWhile (fun c => !endsAuthority special c)
  let rest := cs.drop authority.length
  match splitLastAt authority with
  | none => .ok (false, cs)
  | some (user, host) =>
    if user.isEmpty then
      match host, rest with
      | [], _ :: _ => .error .emptyHost
      | _, _ => .ok (false, host ++ rest)
    else .ok (user ≠ [':'], host ++ rest)

/-- Splits off the text of the host, which ends at a colon outside brackets. -/
def splitHost (special : Bool) : Bool → List Char → List Char × List Char
  | _, [] => ([], [])
  | inside, c :: rest =>
    if (c = ':' && !inside) || endsAuthority special c then ([], c :: rest)
    else
      let inside := if c = '[' then true else if c = ']' then false else inside
      let (host, others) := splitHost special inside rest
      (c :: host, others)

def readBracketed (cs : List Char) : Except UrlFault String :=
  if cs.getLast? = some ']' then
    match Ipv6.parse? (String.ofList (cs.drop 1).dropLast) with
    | some pieces => .ok ("[" ++ Ipv6.text pieces ++ "]")
    | none => .error .badIpv6
  else .error .badIpv6

/-- The host of a web scheme: decoded, folded to ASCII, and an address in its plain form. -/
def readDomainHost (cs : List Char) : Except UrlFault String :=
  if cs.head? = some '[' then readBracketed cs
  else
    match (Percent.decode? cs).bind Domain.toAscii? with
    | none => .error .badDomain
    | some domain =>
      if domain = "" then .error .emptyHost
      else if Ipv4.endsInNumber domain then
        match Ipv4.parse? domain with
        | some address => .ok (Ipv4.text address)
        | none => .error .badIpv4
      else .ok domain

def isForbiddenInHost (c : Char) : Bool :=
  c.toNat = 0 || c = ' ' || "#/:<>?@[\\]^|".toList.contains c

/-- The host of another scheme: its letters are kept, and what is not ASCII is encoded. -/
def readOpaqueHost (cs : List Char) : Except UrlFault String :=
  if cs.head? = some '[' then readBracketed cs
  else if cs.any isForbiddenInHost then .error .badHostCharacter
  else .ok (String.ofList (Percent.encode Percent.isControl cs))

/-- Reads a port up to the start of the path. -/
def readPort (cs : List Char) : Except UrlFault (Option Nat × List Char) :=
  let digits := cs.takeWhile Char.isDigit
  let rest := cs.dropWhile Char.isDigit
  let value := digits.foldl (fun n c => n * 10 + (c.toNat - 48)) 0
  if 65535 < value then .error .badPort
  else if rest.head?.any (fun c => !endsAuthority true c) then .error .badPort
  else .ok (if digits.isEmpty then none else some value, rest)

def splitSegments (special : Bool) (cs : List Char) : List (List Char) :=
  cs.foldr (fun c parts =>
    if c = '/' || (special && c = '\\') then [] :: parts
    else match parts with
      | p :: rest => (c :: p) :: rest
      | [] => [[c]]) [[]]

def isSingleDot (s : String) : Bool := s ∈ [".", "%2e", "%2E"]

def isDoubleDot (s : String) : Bool :=
  s ∈ ["..", "%2e%2e", "%2e%2E", "%2E%2e", "%2E%2E", "%2e.", "%2E.", ".%2e", ".%2E"]

/-- A segment such as `C:`, which no `..` removes. -/
def isDriveLetter (s : String) : Bool :=
  match s.toList with
  | [c, d] => c.isAlpha && (d = ':' || d = '|')
  | _ => false

/-- Resolves relative segments; `done` holds the segments before, last one first. -/
def resolve : List String → List String → List String
  | [], done => done.reverse
  | s :: rest, done =>
    let done :=
      if isDoubleDot s then
        match done with
        | [] => []
        | last :: before => if isDriveLetter last then last :: before else before
      else if isSingleDot s then done
      else s :: done
    match rest with
    | [] => if isDoubleDot s || isSingleDot s then ("" :: done).reverse else done.reverse
    | _ => resolve rest done

/-- The text of a path that starts at its first slash. -/
def readPath (special : Bool) (cs : List Char) : String :=
  let segments := (splitSegments special cs).map
    (fun s => String.ofList (Percent.encode Percent.isPathEncoded s))
  "/" ++ "/".intercalate (resolve segments [])

/-- The path behind a host. -/
def readPathAfterHost (special : Bool) (cs : List Char) : String :=
  match cs with
  | [] => if special then "/" else ""
  | c :: rest =>
    if c = '/' || (special && c = '\\') then readPath special rest else readPath special (c :: rest)

/-- Splits off the query and the fragment. -/
def splitTail (cs : List Char) : List Char × Option String × Option String :=
  let front := cs.takeWhile (· ≠ '#')
  let fragment := match cs.dropWhile (· ≠ '#') with
    | _ :: rest => some (String.ofList rest)
    | [] => none
  let path := front.takeWhile (· ≠ '?')
  let query := match front.dropWhile (· ≠ '?') with
    | _ :: rest => some (String.ofList rest)
    | [] => none
  (path, query, fragment)

/-- Reads what stands behind the slashes of the authority. -/
def readAuthority (scheme : String) (special : Bool) (cs : List Char) : Except UrlFault Url := do
  let (hasUser, cs) ← dropUser special cs
  let (hostText, rest) := splitHost special false cs
  if special && hostText.isEmpty then throw .emptyHost
  let host ← if special then readDomainHost hostText else readOpaqueHost hostText
  if host = "" && rest.head? = some ':' then throw .emptyHost
  let (port, rest) ← match rest with
    | ':' :: rest => readPort rest
    | rest => pure (none, rest)
  if host = "" && hasUser then throw .emptyHost
  let (path, query, fragment) := splitTail rest
  return {
    scheme
    host := if host = "" then none else some host
    port := if port = defaultPort scheme then none else port
    path := readPathAfterHost special path
    query
    fragment }

/-- Reads what stands behind `file:`. -/
def readFile (cs : List Char) : Except UrlFault Url := do
  let isSlash (c : Char) : Bool := c = '/' || c = '\\'
  let (host, rest) ← match cs with
    | a :: b :: rest =>
      if isSlash a && isSlash b then
        let text := rest.takeWhile (fun c => !endsAuthority true c)
        if text.isEmpty || isDriveLetter (String.ofList text) then pure (none, rest)
        else
          let host ← readDomainHost text
          pure (if host = "localhost" then none else some host, rest.drop text.length)
      else pure (none, cs)
    | _ => pure (none, cs)
  let (path, query, fragment) := splitTail rest
  return { scheme := "file", host, port := none, path := readPathAfterHost true path, query,
           fragment }

/-- Reads what stands behind the scheme and its colon. -/
def readRest (scheme : String) (cs : List Char) : Except UrlFault Url :=
  match classify scheme with
  | .file => readFile cs
  | .special => readAuthority scheme true (cs.dropWhile (fun c => c = '/' || c = '\\'))
  | .other =>
    match cs with
    | '/' :: '/' :: rest => readAuthority scheme false rest
    | cs =>
      let (path, query, fragment) := splitTail cs
      let path := match path with
        | '/' :: rest => readPath false rest
        | path => String.ofList (Percent.encode Percent.isControl path)
      .ok { scheme, host := none, port := none, path, query, fragment }

/-- Reads an absolute URL. -/
def parse (text : String) : Except UrlFault Url :=
  match splitScheme (significant text) with
  | none => .error .noScheme
  | some (scheme, rest) => readRest scheme rest

end Url

end WorkloadIdentity
