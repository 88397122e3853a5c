import ClusterDeploy.Toml.Scalar
/-!
# TOML documents

A document is a table. Keys with dots make tables inside the current one, headers choose the current
table, and no table and no value may be defined twice.
-/
namespace ClusterDeploy.Toml

/-- How a table came about, which decides what may still be added to it. -/
inductive TableForm where
  /-- By a header of its own. -/
  | header
  /-- By the header of a table inside it. -/
  | implied
  /-- By a key with dots. -/
  | dotted
  /-- By braces; nothing can be added. -/
  | closed
  deriving DecidableEq, Repr

inductive Item where
  | scalar (s : Scalar)
  | array (items : List Item)
  | table (form : TableForm) (entries : List (String × Item))
  /-- A table for each header of the name, in doubled brackets. -/
  | tables (items : List (List (String × Item)))
  deriving Repr, Inhabited

abbrev Entries := List (String × Item)

namespace Entries

def find? (es : Entries) (name : String) : Option Item :=
  (List.find? (fun e => e.1 == name) es).map (·.2)

def add? (name : String) (item : Item) (es : Entries) : Option Entries :=
  if (find? es name).isSome then none else some (es ++ [(name, item)])

def replace (name : String) (item : Item) (es : Entries) : Entries :=
  es.map fun e => if e.1 == name then (name, item) else e

/-- Changes the table that a header path leads to; tables on the way come about by themselves. -/
def atHeader (change : Entries → Option Entries) : List String → Entries → Option Entries
  | [], es => change es
  | name :: more, es =>
    match find? es name with
    | none => do
      let inner ← atHeader change more []
      return es ++ [(name, .table .implied inner)]
    | some (.table .closed _) => none
    | some (.table form inner) => do
      return es.replace name (.table form (← atHeader change more inner))
    | some (.tables items) =>
      match items.getLast? with
      | none => none
      | some last => do
        return es.replace name (.tables (items.dropLast ++ [← atHeader change more last]))
    | some _ => none

/-- Adds an entry under a key with dots. The table it goes into must have come about by such keys
too. -/
def addDotted (item : Item) : List String → String → Entries → Option Entries
  | [], name, es => es.add? name item
  | first :: more, name, es =>
    match find? es first with
    | none => do
      return es ++ [(first, .table .dotted (← addDotted item more name []))]
    | some (.table form inner) =>
      if form = .dotted || (form = .implied && !more.isEmpty) then do
        return es.replace first (.table form (← addDotted item more name inner))
      else none
    | some _ => none

def beginTable (name : String) (es : Entries) : Option Entries :=
  match find? es name with
  | none => some (es ++ [(name, .table .header [])])
  | some (.table .implied inner) => some (es.replace name (.table .header inner))
  | some _ => none

def beginTables (name : String) (es : Entries) : Option Entries :=
  match find? es name with
  | none => some (es ++ [(name, .tables [[]])])
  | some (.tables items) => some (es.replace name (.tables (items ++ [[]])))
  | some _ => none

end Entries

def isBareChar (c : Char) : Bool := c.isAlphanum || c == '_' || c == '-'

def keyPart? (cs : List Char) : Option (String × List Char) :=
  match cs with
  | '"' :: rest => (quoted? (cs.length + 1) rest).map fun (t, rest) => (String.ofList t, rest)
  | '\'' :: rest => (literal? rest).map fun (t, rest) => (String.ofList t, rest)
  | _ =>
    let bare := cs.takeWhile isBareChar
    if bare.isEmpty then none else some (String.ofList bare, cs.dropWhile isBareChar)

def key? : (fuel : Nat) → List Char → Option ((List String × String) × List Char)
  | 0, _ => none
  | fuel + 1, cs => do
    let (part, rest) ← keyPart? (skipGap cs)
    match skipGap rest with
    | '.' :: more => do
      let ((path, last), rest) ← key? fuel more
      return ((part :: path, last), rest)
    | rest => return (([], part), rest)

mutual

/-- A value, with at most `depth` brackets and braces open at once. -/
def value? : (fuel depth : Nat) → List Char → Option (Item × List Char)
  | 0, _, _ => none
  | fuel + 1, depth, cs =>
    match cs, depth with
    | '[' :: _, 0 => none
    | '\x7b' :: _, 0 => none
    | '[' :: rest, depth + 1 =>
      (items? fuel depth (skipLines (rest.length + 1) rest)).map fun (items, rest) =>
        (.array items, rest)
    | '\x7b' :: rest, depth + 1 =>
      (members? fuel depth (skipLines (rest.length + 1) rest) []).map fun (es, rest) =>
        (.table .closed es, rest)
    | _, _ => (scalar? cs).map fun (s, rest) => (.scalar s, rest)

def items? : (fuel depth : Nat) → List Char → Option (List Item × List Char)
  | 0, _, _ => none
  | _, _, ']' :: rest => some ([], rest)
  | fuel + 1, depth, cs => do
    let (item, rest) ← value? fuel depth cs
    match skipLines (rest.length + 1) rest with
    | ',' :: more => do
      let (items, rest) ← items? fuel depth (skipLines (more.length + 1) more)
      return (item :: items, rest)
    | ']' :: rest => return ([item], rest)
    | _ => none

def members? : (fuel depth : Nat) → List Char → Entries → Option (Entries × List Char)
  | 0, _, _, _ => none
  | _, _, '\x7d' :: rest, es => some (es, rest)
  | fuel + 1, depth, cs, es => do
    let ((path, name), rest) ← key? (cs.length + 1) cs
    match rest with
    | '=' :: more => do
      let (item, rest) ← value? fuel depth (skipGap more)
      let es ← es.addDotted item path name
      match skipLines (rest.length + 1) rest with
      | ',' :: more => members? fuel depth (skipLines (more.length + 1) more) es
      | '\x7d' :: rest => return (es, rest)
      | _ => none
    | _ => none

end

def maxDepth : Nat := 80

/-- Reads a document line by line, with the path of the current table. -/
def statements : (fuel : Nat) → (current : List String) → Entries → List Char → Option Entries
  | 0, _, _, _ => none
  | fuel + 1, current, es, cs =>
    match skipGap cs with
    | [] => some es
    | '[' :: '[' :: rest => do
      let ((path, name), rest) ← key? (rest.length + 1) rest
      match rest with
      | ']' :: ']' :: rest =>
        statements fuel (path ++ [name]) (← es.atHeader (Entries.beginTables name) path)
          (← endOfLine? rest)
      | _ => none
    | '[' :: rest => do
      let ((path, name), rest) ← key? (rest.length + 1) rest
      match rest with
      | ']' :: rest =>
        statements fuel (path ++ [name]) (← es.atHeader (Entries.beginTable name) path)
          (← endOfLine? rest)
      | _ => none
    | c :: rest =>
      if c == '#' || c == '\n' || c == '\r' then do
        statements fuel current es (← endOfLine? (c :: rest))
      else do
        let ((path, name), rest) ← key? (rest.length + 2) (c :: rest)
        match rest with
        | '=' :: more => do
          let (item, rest) ← value? (more.length + 1) maxDepth (skipGap more)
          statements fuel current (← es.atHeader (Entries.addDotted item path name) current)
            (← endOfLine? rest)
        | _ => none

def parse? (text : List Char) : Option Entries :=
  let text :=
    match text with
    | '\uFEFF' :: rest => rest
    | other => other
  statements (text.length + 1) [] [] text

end ClusterDeploy.Toml
