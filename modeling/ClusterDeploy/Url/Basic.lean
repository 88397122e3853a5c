import ClusterDeploy.Url.Address
/-!
# URLs and their text

A URL in its parts. The path of a URL with a hierarchy is a list of segments, each written after a
slash, so dot segments and empty segments are visible in the type; any other path is one text.
-/
namespace ClusterDeploy

namespace Url

def defaultPort? (scheme : String) : Option Nat :=
  match scheme with
  | "http" | "ws" => some 80
  | "https" | "wss" => some 443
  | "ftp" => some 21
  | _ => none

def isSpecial (scheme : String) : Bool := (defaultPort? scheme).isSome || scheme == "file"

inductive Host where
  | name (text : List Char)
  | ipv4 (address : Nat)
  | ipv6 (groups : List Nat)
  deriving DecidableEq, Repr

def Host.text : Host → List Char
  | name text => text
  | ipv4 n => (ipv4Text n).toList
  | ipv6 gs => '[' :: ((ipv6Text gs).toList ++ [']'])

inductive UrlPath where
  | segments (items : List (List Char))
  | bare (text : List Char)
  deriving DecidableEq, Repr

def UrlPath.text : UrlPath → List Char
  | segments items => items.flatMap ('/' :: ·)
  | bare text => text

structure Authority where
  user : List Char := []
  password : List Char := []
  host : Host
  port : Option Nat := none
  deriving DecidableEq, Repr

def Authority.text (a : Authority) : List Char :=
  let login :=
    if a.user.isEmpty && a.password.isEmpty then []
    else if a.password.isEmpty then a.user ++ ['@']
    else a.user ++ ':' :: (a.password ++ ['@'])
  let port :=
    match a.port with
    | none => []
    | some n => ':' :: (toString n).toList
  login ++ a.host.text ++ port

end Url

structure Url where
  scheme : String
  authority : Option Url.Authority := none
  path : Url.UrlPath
  query : Option (List Char) := none
  fragment : Option (List Char) := none
  deriving DecidableEq, Repr

namespace Url

/-- A path that starts with two slashes must not be taken for a host. -/
def pathGuard (u : Url) : List Char :=
  match u.authority, u.path with
  | none, .segments ([] :: _ :: _) => ['/', '.']
  | _, _ => []

def chars (u : Url) : List Char :=
  u.scheme.toList ++ ':' ::
    ((match u.authority with
      | some a => '/' :: '/' :: a.text
      | none => []) ++
    u.pathGuard ++ u.path.text ++
    (match u.query with
      | some q => '?' :: q
      | none => []) ++
    (match u.fragment with
      | some f => '#' :: f
      | none => []))

def text (u : Url) : String := String.ofList u.chars

end Url

end ClusterDeploy
