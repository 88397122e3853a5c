import ClusterDeploy.Url.Basic
import ClusterDeploy.Url.Folding
import ClusterDeploy.Url.Punycode
/-!
# Hosts of a URL

A host is an IPv6 address in brackets, an IPv4 address, or a name. A name is unescaped, folded, and
written in ASCII label by label; characters that would end the host, blanks and controls are refused
in it. Names are folded one character at a time. Three rules for names beyond ASCII are left out:
letters and their marks are not composed, the directions within a label are not checked, and from
U+3000 on only full-width forms and full stops are folded.
-/
namespace ClusterDeploy.Url

open Text

def isForbidden (c : Char) : Bool :=
  let n := c.toNat
  n ≤ 32 || n == 127 ||
    ['%', '#', '/', ':', '<', '>', '?', '@', '[', '\\', ']', '^', '|'].contains c

def isAscii (cs : List Char) : Bool := cs.all fun c => c.toNat < 128

/-- A label beyond ASCII holds no foreign character and does not start with a combining mark. -/
def isLabel (cs : List Char) : Bool :=
  cs.all (fun c => !isForeign c.toNat) && !(cs.head?.any fun c => isCombining c.toNat)

/-- The ASCII form of a folded label. One that is already encoded must decode to a label that
needs the encoding and is folded. -/
def asciiLabel? (label : List Char) : Option (List Char) :=
  if isAscii label then
    match afterStart ['x', 'n', '-', '-'] label with
    | none => some label
    | some code =>
      match Punycode.decode code with
      | none => none
      | some decoded =>
        if isAscii decoded || !isLabel decoded || decoded.flatMap foldChar != decoded ||
            code.getLast? == some '-' then none
        else some label
  else if isLabel label then some ("xn--".toList ++ Punycode.encode label)
  else none

def asciiName? (cs : List Char) : Option (List Char) := do
  let folded := cs.flatMap foldChar
  if folded.any isForbidden then none
  let labels ← (splitAt '.' folded).mapM asciiLabel?
  return joinWith '.' labels

def bracketed (cs : List Char) : Except UrlFault Host :=
  match cs.getLast? with
  | some ']' => (parseIpv6 (cs.drop 1).dropLast).map .ipv6
  | _ => .error .invalidIpv6

def parseHost (cs : List Char) : Except UrlFault Host :=
  if cs.isEmpty then .error .emptyHost
  else if cs.head? == some '[' then bracketed cs
  else
    match decodeUtf8 (percentDecode cs) with
    | .error _ => .error .invalidDomain
    | .ok decoded =>
      match asciiName? decoded with
      | none => .error .invalidDomain
      | some [] => .error .emptyHost
      | some name =>
        if endsInNumber name then (parseIpv4 name).map .ipv4 else .ok (.name name)

/-- The host of any other scheme stays as it is, encoded where it has to be. -/
def parseOpaqueHost (cs : List Char) : Except UrlFault Host :=
  if cs.head? == some '[' then bracketed cs
  else if cs.any fun c => isForbidden c && c != '%' && (c.toNat = 0 || c == ' ' || 32 < c.toNat) &&
      c.toNat != 127 then .error .invalidDomainCharacter
  else .ok (.name (percentEncode isControl cs))

end ClusterDeploy.Url
