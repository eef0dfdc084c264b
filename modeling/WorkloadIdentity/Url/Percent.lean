namespace WorkloadIdentity.Percent

def upperHex (n : Nat) : Char := if n < 10 then Char.ofNat (48 + n) else Char.ofNat (55 + n)

def encodeByte (b : UInt8) : List Char := ['%', upperHex (b.toNat / 16), upperHex (b.toNat % 16)]

/-- The encoding of a character, byte by byte. -/
def encodeChar (c : Char) : List Char := (String.singleton c).toUTF8.toList.flatMap encodeByte

/-- Control characters and everything beyond ASCII. -/
def isControl (c : Char) : Bool := c.toNat < 32 || 127 ≤ c.toNat

/-- The characters that are encoded in a path. -/
def isPathEncoded (c : Char) : Bool :=
  isControl c || c = ' ' || c = '"' || c = '<' || c = '>' || c = '`' || c = '#' || c = '?' ||
    c = '\x7b' || c = '\x7d'

/-- Encodes the characters of a class. -/
def encode (encoded : Char → Bool) (cs : List Char) : List Char :=
  cs.flatMap (fun c => if encoded c then encodeChar c else [c])

def hexValue? (c : Char) : Option Nat :=
  if c.isDigit then some (c.toNat - 48)
  else if 'a' ≤ c ∧ c ≤ 'f' then some (c.toNat - 87)
  else if 'A' ≤ c ∧ c ≤ 'F' then some (c.toNat - 55)
  else none

/-- The bytes of a text with every `%` and two hexadecimal digits replaced by their byte. -/
def decodeBytes : List Char → List UInt8
  | [] => []
  | '%' :: a :: b :: rest =>
    match hexValue? a, hexValue? b with
    | some high, some low => UInt8.ofNat (16 * high + low) :: decodeBytes rest
    | _, _ => 37 :: decodeBytes (a :: b :: rest)
  | c :: rest => (String.singleton c).toUTF8.toList ++ decodeBytes rest

/-- The decoded text; `none` where the bytes are no text. -/
def decode? (cs : List Char) : Option String :=
  String.fromUTF8? ⟨(decodeBytes cs).toArray⟩

end WorkloadIdentity.Percent
