import ClusterDeploy.Text.Blank
/-!
# Paths as text

A path is its text. Joining, the parent and the last name work on the text alone; only the file
tree gives a path a place.
-/
namespace ClusterDeploy.Path

open Text

def isAbsolute (path : String) : Bool := path.toList.head? == some '/'

/-- An absolute second path replaces the first; joining the empty path adds a final slash. -/
def join (base path : String) : String :=
  if isAbsolute path then path
  else
    match base.toList.getLast? with
    | none => path
    | some '/' => base ++ path
    | some _ => base ++ "/" ++ path

/-- Where the named components start: after a root slash or a leading dot component. -/
def bodyStart : List Char → Nat
  | '/' :: _ => 1
  | ['.'] => 1
  | '.' :: '/' :: _ => 1
  | _ => 0

def isIdle (component : List Char) : Bool := component.isEmpty || component == ['.']

def dropIdleEnd : List (List Char) → List (List Char)
  | [] => []
  | c :: rest =>
    match dropIdleEnd rest with
    | [] => if isIdle c then [] else [c]
    | kept => c :: kept

/-- The text before the last component; none for the root and the empty path. -/
def parent? (path : String) : Option String :=
  let cs := path.toList
  let start := bodyStart cs
  let body := dropIdleEnd (splitAt '/' (cs.drop start))
  if body.isEmpty then
    match cs with
    | '.' :: _ => some ""
    | _ => none
  else some (String.ofList (cs.take start ++ joinWith '/' (dropIdleEnd body.dropLast)))

/-- The folder that holds the path, `.` when its text names none. -/
def folder (path : String) : String :=
  match parent? path with
  | some text => if text.isEmpty then "." else text
  | none => "."

/-- The last component, unless it is a dot, two dots or the root. -/
def fileName? (path : String) : Option String :=
  let cs := path.toList
  match (dropIdleEnd (splitAt '/' (cs.drop (bodyStart cs)))).getLast? with
  | none => none
  | some ['.', '.'] => none
  | some name => some (String.ofList name)

def components (path : String) : List String :=
  ((splitAt '/' path.toList).filter fun c => !isIdle c).map String.ofList

/-- The path insists on a folder: it ends in a slash or a dot component. -/
def endsInFolder (path : String) : Bool :=
  match (splitAt '/' path.toList).getLast? with
  | some last => isIdle last || last == ['.', '.']
  | none => false

end ClusterDeploy.Path
