import ClusterDeploy.Text.Blank
import ClusterDeploy.Text.Word
/-!
# Expanding variables in a path

A dollar sign and a name stand for the value of the variable, also with the name in braces, where a
default may follow after `:-`. Two dollar signs are one, and a dollar sign without a name stands for
itself. A tilde at the start is the home folder. What a variable holds is not expanded again.
-/
namespace ClusterDeploy.Text

/-- What a reference in braces names, and the default it gives. A default needs a name before it. -/
def splitDefault : List Char → List Char × Option (List Char)
  | [] => ([], none)
  | ':' :: '-' :: fallback => ([], some fallback)
  | c :: rest =>
    let (name, fallback) := splitDefault rest
    (c :: name, fallback)

def reference (inner : List Char) : List Char × Option (List Char) :=
  match splitDefault inner with
  | ([], some _) => (inner, none)
  | parts => parts

/-- The value of a reference in braces. An empty variable without a default leaves the reference as
it is. -/
def bracedValue (lookup : String → Option String) (inner : List Char) :
    Except String (List Char) :=
  let (name, fallback) := reference inner
  match lookup (String.ofList name), fallback with
  | some value, none =>
    .ok (if value.isEmpty then '$' :: '\x7b' :: (inner ++ ['\x7d']) else value.toList)
  | some value, some fallback => .ok (if value.isEmpty then fallback else value.toList)
  | none, some fallback => .ok fallback
  | none, none => .error (String.ofList name)

/-- Expands every reference; the error is the name of a variable that is not set. One step reads at
least one character. -/
def expandWithin (lookup : String → Option String) :
    (fuel : Nat) → List Char → Except String (List Char)
  | 0, cs => .ok cs
  | _, [] => .ok []
  | fuel + 1, '$' :: rest =>
    match rest with
    | '\x7b' :: more =>
      match splitOnce '\x7d' more with
      | none => (expandWithin lookup fuel more).map fun tail => '$' :: '\x7b' :: tail
      | some (inner, after) => do
        let value ← bracedValue lookup inner
        return value ++ (← expandWithin lookup fuel after)
    | '$' :: more => (expandWithin lookup fuel more).map ('$' :: ·)
    | _ =>
      let name := rest.takeWhile isWordChar
      if name.isEmpty then (expandWithin lookup fuel rest).map ('$' :: ·)
      else
        match lookup (String.ofList name) with
        | none => .error (String.ofList name)
        | some value =>
          (expandWithin lookup fuel (rest.dropWhile isWordChar)).map (value.toList ++ ·)
  | fuel + 1, c :: rest => (expandWithin lookup fuel rest).map (c :: ·)

def expandHome (home : String) : List Char → List Char
  | ['~'] => home.toList
  | '~' :: '/' :: rest => home.toList ++ '/' :: rest
  | cs => cs

/-- Expands variables, and then the tilde of a text that starts with one itself. -/
def expand (lookup : String → Option String) (home text : String) : Except String String :=
  let cs := text.toList
  (expandWithin lookup (cs.length + 1) cs).map fun expanded =>
    String.ofList (if cs.head? = some '~' then expandHome home expanded else expanded)

end ClusterDeploy.Text
