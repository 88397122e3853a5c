import ClusterDeploy.Text.Utf8
/-!
# Percent encoding

Which characters a part of a URL writes as `%XX`, and the octets that a text with such escapes
stands for. Control characters and everything outside ASCII are always encoded.
-/
namespace ClusterDeploy.Url

def hexUpper (n : Nat) : Char := if n < 10 then Char.ofNat (48 + n) else Char.ofNat (55 + n)

def encodeOctet (b : UInt8) : List Char := ['%', hexUpper (b.toNat / 16), hexUpper (b.toNat % 16)]

def encodeChar (c : Char) : List Char := (Text.encodeUtf8 c.toString).flatMap encodeOctet

def isControl (c : Char) : Bool := c.toNat < 32 || 127 ≤ c.toNat

def inFragmentSet (c : Char) : Bool :=
  isControl c || [' ', '"', '<', '>', '\x60'].contains c

def inQuerySet (c : Char) : Bool := isControl c || [' ', '"', '#', '<', '>'].contains c

/-- Queries of the well-known schemes encode the apostrophe too. -/
def inSpecialQuerySet (c : Char) : Bool := inQuerySet c || c == '\''

def inPathSet (c : Char) : Bool := inFragmentSet c || ['#', '?', '\x7b', '\x7d'].contains c

def inUserSet (c : Char) : Bool :=
  inPathSet c || ['/', ':', ';', '=', '@', '[', '\\', ']', '^', '|'].contains c

/-- Encodes the characters of a set; a `%` that is already there stays. -/
def percentEncode (inSet : Char → Bool) (cs : List Char) : List Char :=
  cs.flatMap fun c => if inSet c then encodeChar c else [c]

def hexDigit? (c : Char) : Option Nat :=
  let n := c.toNat
  if 48 ≤ n && n ≤ 57 then some (n - 48)
  else if 97 ≤ n && n ≤ 102 then some (n - 87)
  else if 65 ≤ n && n ≤ 70 then some (n - 55)
  else none

/-- The octets of a text; a `%` without two hexadecimal digits stands for itself. -/
def percentDecode : List Char → List UInt8
  | [] => []
  | '%' :: a :: b :: rest =>
    match hexDigit? a, hexDigit? b with
    | some x, some y => UInt8.ofNat (x * 16 + y) :: percentDecode rest
    | _, _ => 0x25 :: percentDecode (a :: b :: rest)
  | c :: rest => Text.encodeUtf8 c.toString ++ percentDecode rest

end ClusterDeploy.Url
