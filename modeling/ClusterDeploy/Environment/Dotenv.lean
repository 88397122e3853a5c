import ClusterDeploy.Environment.Basic
/-!
# The text of an environment file

One assignment a line, `NAME=value`; blank lines and lines that start with `#` do not count, and a
leading `export` is allowed. A value in double quotes is unescaped, one in single quotes is taken as
it stands. Written files quote and escape every value, so that any text survives.
-/
namespace ClusterDeploy.Dotenv

open Text

/-- Decodes escapes: `\n` is a line feed, any other escaped character itself, and a backslash at the
end stands for itself. -/
def unescape : List Char → List Char
  | [] => []
  | ['\\'] => ['\\']
  | '\\' :: c :: rest => (if c = 'n' then '\n' else c) :: unescape rest
  | c :: rest => c :: unescape rest

def escapeChar (c : Char) : List Char :=
  if c = '\\' then ['\\', '\\']
  else if c = '"' then ['\\', '"']
  else if c = '\n' then ['\\', 'n']
  else [c]

def escape (cs : List Char) : List Char := cs.flatMap escapeChar

def unquote (value : List Char) : List Char :=
  match value with
  | '"' :: rest => if rest.getLast? = some '"' then unescape rest.dropLast else value
  | '\'' :: rest => if rest.getLast? = some '\'' then rest.dropLast else value
  | _ => value

inductive Line where
  | idle
  | entry (name value : List Char)
  | wrong
  deriving DecidableEq, Repr

def exportWord : List Char := ['e', 'x', 'p', 'o', 'r', 't', ' ']

def Line.read (raw : List Char) : Line :=
  let line := trim raw
  if line.isEmpty || line.head? == some '#' then .idle
  else
    match splitOnce '=' ((afterStart exportWord line).getD line) with
    | none => .wrong
    | some (name, value) => .entry (trim name) (unquote (trim value))

/-- The assignments of some lines in order, or the number and the text of the first line that is
none of the three kinds. -/
def readLines : (number : Nat) → List (List Char) →
    Except (Nat × String) (List (String × String))
  | _, [] => .ok []
  | number, raw :: more =>
    match Line.read raw with
    | .idle => readLines (number + 1) more
    | .wrong => .error (number, String.ofList raw)
    | .entry name value =>
      (readLines (number + 1) more).map ((String.ofList name, String.ofList value) :: ·)

def parse (text : List Char) : Except (Nat × String) Environment :=
  (readLines 1 (lines text)).map Environment.ofList

def writeEntry (entry : String × String) : List Char :=
  entry.1.toList ++ '=' :: '"' :: (escape entry.2.toList ++ ['"', '\n'])

def render (e : Environment) : List Char := e.entries.flatMap writeEntry

end ClusterDeploy.Dotenv
