import ClusterDeploy.Url.HostName
/-!
# Reading a URL

Blanks and control characters around the text and tabs and line ends inside it do not count. A
scheme of the well-known ones takes any number of slashes, backslashes too, before its host. Path
segments resolve as they are read: `.` stays where it is and `..` drops the segment before it, also
when a dot is written as `%2e`.
-/
namespace ClusterDeploy.Url

open Text

def isAlpha (c : Char) : Bool := ('a' ≤ c && c ≤ 'z') || ('A' ≤ c && c ≤ 'Z')

def isTabOrBreak (c : Char) : Bool := c == '\t' || c == '\n' || c == '\r'

/-- Removes blanks and controls at both ends, and tabs and line ends everywhere. -/
def clean (cs : List Char) : List Char :=
  let isOuter (c : Char) : Bool := c.toNat ≤ 32
  (((cs.dropWhile isOuter).reverse.dropWhile isOuter).reverse).filter fun c => !isTabOrBreak c

def splitScheme (cs : List Char) : Option (String × List Char) :=
  match cs.head? with
  | some c =>
    if isAlpha c then
      let isPart (c : Char) : Bool := isAlpha c || isDigit c || c == '+' || c == '-' || c == '.'
      match cs.dropWhile isPart with
      | ':' :: rest => some (String.ofList ((cs.takeWhile isPart).map Char.toLower), rest)
      | _ => none
    else none
  | none => none

def isSingleDot (segment : List Char) : Bool :=
  let s := segment.map Char.toLower
  s == ['.'] || s == ['%', '2', 'e']

def isDoubleDot (segment : List Char) : Bool :=
  let s := segment.map Char.toLower
  s == ['.', '.'] || s == ['.', '%', '2', 'e'] || s == ['%', '2', 'e', '.'] ||
    s == ['%', '2', 'e', '%', '2', 'e']

/-- Resolves segments onto those before them, which stand in reverse. A dot segment at the very end
leaves an empty segment, that is, a final slash. -/
def resolveFrom (stack : List (List Char)) : List (List Char) → List (List Char)
  | [] => stack.reverse
  | [last] =>
    if isDoubleDot last then ([] :: stack.drop 1).reverse
    else if isSingleDot last then ([] :: stack).reverse
    else (last :: stack).reverse
  | s :: next :: more =>
    if isDoubleDot s then resolveFrom (stack.drop 1) (next :: more)
    else if isSingleDot s then resolveFrom stack (next :: more)
    else resolveFrom (s :: stack) (next :: more)

/-- Backslashes separate segments in the well-known schemes. -/
def slashed (special : Bool) (cs : List Char) : List Char :=
  if special then cs.map fun c => if c = '\\' then '/' else c else cs

/-- The segments that a path text resolves to; its first slash only starts it. -/
def readPath (special : Bool) (cs : List Char) : UrlPath :=
  match slashed special cs with
  | [] => .segments (if special then [[]] else [])
  | '/' :: rest =>
    .segments (resolveFrom [] ((splitAt '/' rest).map (percentEncode inPathSet)))
  | rest => .segments (resolveFrom [] ((splitAt '/' rest).map (percentEncode inPathSet)))

/-- Splits the text before its query and its fragment off, and encodes those. -/
def splitTail (special : Bool) (cs : List Char) :
    List Char × Option (List Char) × Option (List Char) :=
  let (body, fragment) :=
    match splitOnce '#' cs with
    | some (body, f) => (body, some (percentEncode inFragmentSet f))
    | none => (cs, none)
  match splitOnce '?' body with
  | some (path, q) =>
    (path, some (percentEncode (if special then inSpecialQuerySet else inQuerySet) q), fragment)
  | none => (body, none, fragment)

def isAuthorityEnd (special : Bool) (c : Char) : Bool :=
  c == '/' || c == '?' || c == '#' || (special && c == '\\')

def splitLogin (cs : List Char) : Option (List Char) × List Char :=
  let after := (cs.reverse.takeWhile (· != '@')).reverse
  if after.length = cs.length then (none, cs)
  else (some (cs.take (cs.length - after.length - 1)), after)

def readLogin (login : List Char) : List Char × List Char :=
  match splitOnce ':' login with
  | some (user, password) => (percentEncode inUserSet user, percentEncode inUserSet password)
  | none => (percentEncode inUserSet login, [])

/-- Splits a host from its port at the first colon outside brackets. -/
def splitPort (inBrackets : Bool) : List Char → List Char × Option (List Char)
  | [] => ([], none)
  | c :: rest =>
    if c = ':' && !inBrackets then ([], some rest)
    else
      let (host, port) := splitPort (c == '[' || (inBrackets && c != ']')) rest
      (c :: host, port)

/-- Digits up to 65535; the default port of the scheme and no digits at all are no port. -/
def readPort (scheme : String) (digits : List Char) : Except UrlFault (Option Nat) :=
  if !digits.all isDigit then .error .invalidPort
  else
    let n := digits.foldl (fun n d => n * 10 + (d.toNat - 48)) 0
    if 65535 < n then .error .invalidPort
    else .ok (if digits.isEmpty || defaultPort? scheme == some n then none else some n)

def readAuthority (scheme : String) (cs : List Char) : Except UrlFault Authority := do
  let special := isSpecial scheme
  let (login, rest) := splitLogin cs
  if login == some [] && rest.isEmpty then throw .emptyHost
  let (user, password) := readLogin (login.getD [])
  let (hostText, port) := splitPort false rest
  if hostText.isEmpty && (special || port.isSome) then throw .emptyHost
  let host ← if special then parseHost hostText else parseOpaqueHost hostText
  if hostText.isEmpty && !(user.isEmpty && password.isEmpty) then throw .emptyHost
  let port ←
    match port with
    | some digits => readPort scheme digits
    | none => pure none
  return { user, password, host, port }

def readHierarchy (scheme : String) (cs : List Char) : Except UrlFault Url := do
  let special := isSpecial scheme
  let authority ← readAuthority scheme (cs.takeWhile fun c => !isAuthorityEnd special c)
  let (path, query, fragment) := splitTail special (cs.dropWhile fun c => !isAuthorityEnd special c)
  return { scheme, authority := some authority, path := readPath special path, query, fragment }

def splitFileHost (cs : List Char) : List Char × List Char :=
  let isSlash (c : Char) : Bool := c == '/' || c == '\\'
  match cs with
  | a :: b :: more =>
    if isSlash a && isSlash b then
      (more.takeWhile fun c => !isAuthorityEnd true c,
        more.dropWhile fun c => !isAuthorityEnd true c)
    else ([], cs)
  | other => ([], other)

/-- A file has an optional host, and `localhost` is none. -/
def readFile (cs : List Char) : Except UrlFault Url := do
  let (hostText, rest) := splitFileHost cs
  let host ← if hostText.isEmpty then pure (Host.name []) else parseHost hostText
  let host := if host == .name "localhost".toList then Host.name [] else host
  let (path, query, fragment) := splitTail true rest
  return {
    scheme := "file", authority := some { host }, path := readPath true path, query, fragment }

def parseChars (cs : List Char) : Except UrlFault Url :=
  match splitScheme (clean cs) with
  | none => .error .relativeWithoutBase
  | some (scheme, rest) =>
    if scheme == "file" then readFile rest
    else if isSpecial scheme then
      readHierarchy scheme (rest.dropWhile fun c => c == '/' || c == '\\')
    else
      match rest with
      | '/' :: '/' :: more => readHierarchy scheme more
      | '/' :: _ =>
        let (path, query, fragment) := splitTail false rest
        .ok { scheme, path := readPath false path, query, fragment }
      | _ =>
        let (path, query, fragment) := splitTail false rest
        .ok { scheme, path := .bare (percentEncode isControl path), query, fragment }

def parse (text : String) : Except UrlFault Url := parseChars text.toList

/-- Replaces the path; question marks and number signs in it are part of it. -/
def setPath (u : Url) (path : List Char) : Url :=
  let cs := path.filter fun c => !isTabOrBreak c
  match u.path with
  | .segments _ => { u with path := readPath (isSpecial u.scheme) cs }
  | .bare _ =>
    match cs with
    | '/' :: rest => { u with path := .bare ("%2F".toList ++ percentEncode isControl rest) }
    | _ => { u with path := .bare (percentEncode isControl cs) }

end ClusterDeploy.Url
