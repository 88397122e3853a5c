import ClusterDeploy.Url.Parse
/-!
# Joining a relative path onto a base URL

The relative path is read segment by segment onto the stack of the base's segments: nothing for an
empty segment or a dot, one segment less for two dots, one more for anything else. Only the path of
the base can change.
-/
namespace ClusterDeploy.Url

open Text

/-- One segment of a relative path moves the stack, whose top is its last element. -/
def stepStack (stack : List (List Char)) (segment : List Char) : List (List Char) :=
  if segment == [] || segment == ['.'] then stack
  else if segment == ['.', '.'] then stack.dropLast
  else stack ++ [segment]

def namedSegments (u : Url) : List (List Char) :=
  match u.path with
  | .segments items => items.filter fun s => !s.isEmpty
  | .bare _ => []

def joinedPath (segments : List (List Char)) (relative : List Char) : List Char :=
  let path := '/' :: joinWith '/' ((splitAt '/' relative).foldl stepStack segments)
  if relative.getLast? == some '/' && path.getLast? != some '/' then path ++ ['/'] else path

def joinPath (u : Url) (relative : List Char) : Url :=
  u.setPath (joinedPath u.namedSegments relative)

/-- The text of a base URL with a relative path joined on. The base must be a URL in any case; with
nothing to join it is returned as it is written. -/
def joinText (base relative : String) : Except UrlFault String := do
  let u ← parse base
  if relative.isEmpty then return base
  return (u.joinPath relative.toList).text

end ClusterDeploy.Url
