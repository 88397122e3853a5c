import ClusterDeploy.Error
import ClusterDeploy.Url.Percent
/-!
# Addresses as hosts

Numeric hosts of a URL: IPv4 in one to four parts, each decimal, octal or hexadecimal; IPv6 in
brackets, with one run of zeros compressed and an IPv4 tail allowed. A stricter IPv6 reader decides
which plain texts are literals.
-/
namespace ClusterDeploy.Url

open Text

def isDigit (c : Char) : Bool := '0' ≤ c && c ≤ '9'

def isHex (c : Char) : Bool := (hexDigit? c).isSome

def digitsIn (radix : Nat) (cs : List Char) : Option Nat :=
  cs.foldl (fun n c => do
    let d ← hexDigit? c
    if d < radix then some ((← n) * radix + d) else none) (some 0)

def ipv4Part? : List Char → Option Nat
  | [] => none
  | '0' :: 'x' :: rest => digitsIn 16 rest
  | '0' :: 'X' :: rest => digitsIn 16 rest
  | '0' :: d :: rest => digitsIn 8 (d :: rest)
  | cs => digitsIn 10 cs

def hostParts (cs : List Char) : List (List Char) :=
  let parts := splitAt '.' cs
  if 1 < parts.length && parts.getLast? == some [] then parts.dropLast else parts

/-- A host whose last part is a number is meant as an IPv4 address. -/
def endsInNumber (cs : List Char) : Bool :=
  match (hostParts cs).getLast? with
  | none => false
  | some last => (!last.isEmpty && last.all isDigit) ||
      (match last with
        | '0' :: 'x' :: rest => rest.all isHex
        | '0' :: 'X' :: rest => rest.all isHex
        | _ => false)

/-- All parts but the last are octets; the last one fills the octets that remain. -/
def ipv4OfParts : (octetsLeft : Nat) → List Nat → Option Nat
  | _, [] => none
  | left, [last] => if last < Nat.pow 256 left then some last else none
  | left, p :: more =>
    if 255 < p then none else (ipv4OfParts (left - 1) more).map (p * Nat.pow 256 (left - 1) + ·)

def parseIpv4 (cs : List Char) : Except UrlFault Nat :=
  let parts := hostParts cs
  if 4 < parts.length then .error .invalidIpv4
  else
    match parts.mapM ipv4Part? with
    | none => .error .invalidIpv4
    | some numbers =>
      match ipv4OfParts 4 numbers with
      | some n => .ok n
      | none => .error .invalidIpv4

def ipv4Text (n : Nat) : String :=
  s!"{n / 16777216 % 256}.{n / 65536 % 256}.{n / 256 % 256}.{n % 256}"

def octet? (cs : List Char) : Option Nat :=
  if cs.isEmpty || 3 < cs.length || !cs.all isDigit || (1 < cs.length && cs.head? == some '0') then
    none
  else
    match digitsIn 10 cs with
    | some n => if n ≤ 255 then some n else none
    | none => none

/-- Four decimal octets as two groups of sixteen bits. -/
def dottedGroups? (cs : List Char) : Option (List Nat) :=
  match (splitAt '.' cs).mapM octet? with
  | some [a, b, c, d] => some [a * 256 + b, c * 256 + d]
  | _ => none

def group? (cs : List Char) : Option Nat :=
  if cs.isEmpty || 4 < cs.length then none else digitsIn 16 cs

/-- Groups between colons; the last one may be a dotted address. -/
def groups? : List (List Char) → Option (List Nat)
  | [] => some []
  | [last] =>
    if last.contains '.' then dottedGroups? last else (group? last).map ([·])
  | g :: more => do return (← group? g) :: (← groups? more)

def splitDouble : List Char → Option (List Char × List Char)
  | ':' :: ':' :: rest => some ([], rest)
  | c :: rest => (splitDouble rest).map fun (before, after) => (c :: before, after)
  | [] => none

def groupsOf? (cs : List Char) : Option (List Nat) :=
  if cs.isEmpty then some [] else groups? (splitAt ':' cs)

/-- The eight groups of an IPv6 address. A double colon stands for at least one group of zeros, and
a dotted tail only stands at the very end. -/
def ipv6Groups? (cs : List Char) : Option (List Nat) :=
  match splitDouble cs with
  | none =>
    match groupsOf? cs with
    | some gs => if gs.length = 8 then some gs else none
    | none => none
  | some (before, after) =>
    if before.contains '.' then none
    else
      match groupsOf? before, groupsOf? after with
      | some front, some back =>
        if front.length + back.length ≤ 7 then
          some (front ++ List.replicate (8 - front.length - back.length) 0 ++ back)
        else none
      | _, _ => none

def parseIpv6 (cs : List Char) : Except UrlFault (List Nat) :=
  match ipv6Groups? cs with
  | some gs => .ok gs
  | none => .error .invalidIpv6

def zeroRun (gs : List Nat) : Nat := (gs.takeWhile (· == 0)).length

/-- Where the first longest run of at least two zero groups starts, and its length. -/
def longestZeros : (index : Nat) → List Nat → (best : Nat × Nat) → Nat × Nat
  | _, [], best => best
  | index, g :: more, best =>
    let run := zeroRun (g :: more)
    longestZeros (index + 1) more (if 2 ≤ run && best.2 < run then (index, run) else best)

def hexText (n : Nat) : String := String.ofList (Nat.toDigits 16 n)

def ipv6Text (gs : List Nat) : String :=
  let (start, run) := longestZeros 0 gs (0, 0)
  let piece (gs : List Nat) : String := ":".intercalate (gs.map hexText)
  if run = 0 then piece gs
  else piece (gs.take start) ++ "::" ++ piece (gs.drop (start + run))

end ClusterDeploy.Url
