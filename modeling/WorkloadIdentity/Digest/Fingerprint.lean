import WorkloadIdentity.Digest.Sha256
import WorkloadIdentity.Json.Printer

namespace WorkloadIdentity.Fingerprint

/-- Two lower-case hexadecimal digits. -/
def hexByte (b : UInt8) : List Char :=
  [Json.hexDigit (b.toNat / 16), Json.hexDigit (b.toNat % 16)]

def hex (bytes : List UInt8) : String := String.ofList (bytes.flatMap hexByte)

/-- The digest of raw bytes in hexadecimal. -/
def ofBytes (bytes : List UInt8) : String := hex (Sha256.digest bytes)

/-- The text that a fingerprint is taken of. -/
def hashedText (config : Json) : String := (Json.canonical config).compact

/-- The fingerprint of a configuration. -/
def ofJson (config : Json) : String := ofBytes (hashedText config).toUTF8.toList

end WorkloadIdentity.Fingerprint
