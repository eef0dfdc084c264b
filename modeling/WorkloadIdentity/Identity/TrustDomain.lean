namespace WorkloadIdentity.TrustDomain

def maxBytes : Nat := 255

/-- Which rule a text breaks. -/
inductive Flaw where
  | empty
  | tooLong
  | scheme
  | path
  | character
deriving DecidableEq, Repr

def Flaw.message : Flaw → String
  | .empty => "must not be empty"
  | .tooLong => "must not exceed 255 characters"
  | .scheme => "must not contain a scheme"
  | .path => "must not contain a path"
  | .character => "may only contain lower case letters, digits, dots, dashes and underscores"

def isAllowed (c : Char) : Bool :=
  ('a' ≤ c && c ≤ 'z') || ('0' ≤ c && c ≤ '9') || c = '.' || c = '_' || c = '-'

/-- Whether `://` occurs. -/
def hasScheme : List Char → Bool
  | [] => false
  | c :: rest => [':', '/', '/'].isPrefixOf (c :: rest) || hasScheme rest

/-- The first flaw of a text, in the order empty, too long, scheme, path, character. -/
def flaw? (domain : String) : Option Flaw :=
  if domain.isEmpty then some .empty
  else if maxBytes < domain.utf8ByteSize then some .tooLong
  else if hasScheme domain.toList then some .scheme
  else if domain.toList.contains '/' then some .path
  else if domain.toList.all isAllowed then none
  else some .character

end WorkloadIdentity.TrustDomain
