/-!
# UTF-8

Decoding of octets, strictly (the first fault and where it is) and leniently (each maximal wrong
start becomes U+FFFD). The ranges of the second octet follow the table of well-formed sequences, so
overlong forms and surrogates are refused.
-/
namespace ClusterDeploy.Text

/-- Why octets are not UTF-8: a wrong sequence of `width` octets, or a text that ends inside a
character. -/
inductive Utf8Fault where
  | wrong (width index : Nat)
  | cut (index : Nat)
  deriving DecidableEq, Repr

def Utf8Fault.message : Utf8Fault → String
  | .wrong width index => s!"invalid utf-8 sequence of {width} bytes from index {index}"
  | .cut index => s!"incomplete utf-8 byte sequence from index {index}"

inductive Utf8Head where
  | char (c : Char) (width : Nat)
  | wrong (width : Nat)
  | cut
  deriving Repr

def isTail (b : UInt8) : Bool := 0x80 ≤ b && b ≤ 0xBF

def secondRange (lead : UInt8) : UInt8 × UInt8 :=
  if lead == 0xE0 then (0xA0, 0xBF)
  else if lead == 0xED then (0x80, 0x9F)
  else if lead == 0xF0 then (0x90, 0xBF)
  else if lead == 0xF4 then (0x80, 0x8F)
  else (0x80, 0xBF)

/-- The number of octets a lead octet announces; 0 for one that starts nothing. -/
def leadWidth (b : UInt8) : Nat :=
  if b < 0x80 then 1
  else if 0xC2 ≤ b && b ≤ 0xDF then 2
  else if 0xE0 ≤ b && b ≤ 0xEF then 3
  else if 0xF0 ≤ b && b ≤ 0xF4 then 4
  else 0

def addTail (n : Nat) (b : UInt8) : Nat := n * 64 + b.toNat % 64

def utf8Head (lead : UInt8) (rest : List UInt8) : Utf8Head :=
  let (low, high) := secondRange lead
  match leadWidth lead with
  | 1 => .char (Char.ofNat lead.toNat) 1
  | 2 =>
    match rest with
    | [] => .cut
    | b :: _ => if isTail b then .char (Char.ofNat (addTail (lead.toNat % 32) b)) 2 else .wrong 1
  | 3 =>
    match rest with
    | [] => .cut
    | b :: rest =>
      if low ≤ b && b ≤ high then
        match rest with
        | [] => .cut
        | c :: _ =>
          if isTail c then .char (Char.ofNat (addTail (addTail (lead.toNat % 16) b) c)) 3
          else .wrong 2
      else .wrong 1
  | 4 =>
    match rest with
    | [] => .cut
    | b :: rest =>
      if low ≤ b && b ≤ high then
        match rest with
        | [] => .cut
        | c :: rest =>
          if isTail c then
            match rest with
            | [] => .cut
            | d :: _ =>
              if isTail d then
                .char (Char.ofNat (addTail (addTail (addTail (lead.toNat % 8) b) c) d)) 4
              else .wrong 3
          else .wrong 2
      else .wrong 1
  | _ => .wrong 1

/-- Reads from position `index`; `skip` octets at the head belong to a character already read. -/
def decodeFrom : (index skip : Nat) → List UInt8 → Except Utf8Fault (List Char)
  | _, _, [] => .ok []
  | index, skip + 1, _ :: rest => decodeFrom (index + 1) skip rest
  | index, 0, b :: rest =>
    match utf8Head b rest with
    | .char c width => (decodeFrom (index + 1) (width - 1) rest).map (c :: ·)
    | .wrong width => .error (.wrong width index)
    | .cut => .error (.cut index)

def decodeUtf8 (octets : List UInt8) : Except Utf8Fault (List Char) := decodeFrom 0 0 octets

/-- Reads with a replacement character for every maximal wrong start. -/
def decodeLossyFrom : (skip : Nat) → List UInt8 → List Char
  | _, [] => []
  | skip + 1, _ :: rest => decodeLossyFrom skip rest
  | 0, b :: rest =>
    match utf8Head b rest with
    | .char c width => c :: decodeLossyFrom (width - 1) rest
    | .wrong width => '\uFFFD' :: decodeLossyFrom (width - 1) rest
    | .cut => ['\uFFFD']

def decodeLossy (octets : List UInt8) : String := String.ofList (decodeLossyFrom 0 octets)

def encodeUtf8 (s : String) : List UInt8 := s.toUTF8.toList

/-- Space, tab, line feed, form feed and carriage return; a vertical tab is not among them. -/
def isAsciiBlank (b : UInt8) : Bool :=
  b == 0x20 || b == 0x09 || b == 0x0A || b == 0x0C || b == 0x0D

end ClusterDeploy.Text
