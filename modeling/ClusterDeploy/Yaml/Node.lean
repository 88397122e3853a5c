import ClusterDeploy.Yaml.Token
/-!
# YAML documents as trees

The tokens of a stream read as documents. A node that was given a name can be referred to later in
the same document, also from inside itself, so references stay references in the tree and the
document keeps a table of the named nodes.
-/
namespace ClusterDeploy.Yaml

inductive Node where
  | scalar (tag : Option String) (plain : Bool) (text : String)
  | sequence (tag : Option String) (items : List Node)
  | mapping (tag : Option String) (entries : List (Node × Node))
  | alias (id : Nat)
  deriving Repr, Inhabited

structure Document where
  root : Node
  /-- The nodes that were given a name, by number. -/
  named : List (Nat × Node)
  deriving Repr, Inhabited

def Document.follow (d : Document) (n : Node) : Node :=
  match n with
  | .alias id => ((d.named.find? fun e => e.1 == id).map (·.2)).getD n
  | other => other

/-- The tokens that remain, and what the document has defined so far. -/
structure NodeReader where
  tokens : List Token
  handles : List (String × String) := []
  names : List (String × Nat) := []
  named : List (Nat × Node) := []
  nextId : Nat := 0

namespace NodeReader

def head? (r : NodeReader) : Option Token := r.tokens.head?

def skip (r : NodeReader) : NodeReader := { r with tokens := r.tokens.drop 1 }

def at' (r : NodeReader) (ts : List Token) : Bool := r.head?.any fun t => ts.contains t

def blank : Node := .scalar none true ""

def resolveTag (r : NodeReader) (handle suffix : String) : Option String :=
  if handle.isEmpty then some suffix
  else
    match r.handles.find? fun h => h.1 == handle with
    | some (_, start) => some (start ++ suffix)
    | none =>
      if handle == "!" then some ("!" ++ suffix)
      else if handle == "!!" then some ("tag:yaml.org,2002:" ++ suffix)
      else none

/-- The name and the tag in front of a node, in either order. -/
def properties (r : NodeReader) : Option (Option String × Option String × NodeReader) :=
  match r.tokens with
  | .anchor name :: .tag h s :: rest => do
    return (some name, some (← r.resolveTag h s), { r with tokens := rest })
  | .tag h s :: .anchor name :: rest => do
    return (some name, some (← r.resolveTag h s), { r with tokens := rest })
  | .anchor name :: rest => some (some name, none, { r with tokens := rest })
  | .tag h s :: rest => do return (none, some (← r.resolveTag h s), { r with tokens := rest })
  | _ => some (none, none, r)

def announce (r : NodeReader) : Option String → Option Nat × NodeReader
  | none => (none, r)
  | some name =>
    (some r.nextId, { r with names := (name, r.nextId) :: r.names, nextId := r.nextId + 1 })

def define (r : NodeReader) (id : Option Nat) (n : Node) : NodeReader :=
  match id with
  | none => r
  | some id => { r with named := (id, n) :: r.named }

mutual

/-- Reads one node. Block collections are only allowed in block context, and an indentless sequence
only as the value of a block mapping. -/
def node : (fuel : Nat) → (block indentless : Bool) → NodeReader → Option (Node × NodeReader)
  | 0, _, _, _ => none
  | fuel + 1, block, indentless, r =>
    match r.tokens with
    | .alias name :: rest =>
      (r.names.find? fun n => n.1 == name).map fun n => (.alias n.2, { r with tokens := rest })
    | _ =>
      match r.properties with
      | none => none
      | some (name, tag, r) =>
        let (id, r) := r.announce name
        let finish : Option (Node × NodeReader) → Option (Node × NodeReader) :=
          fun result => result.map fun (n, r) => (n, r.define id n)
        match r.tokens with
        | .blockEntry :: _ =>
          if indentless then
            finish ((indentlessItems fuel [] r).map fun (items, r) => (.sequence tag items, r))
          else if name.isSome || tag.isSome then finish (some (.scalar tag true "", r))
          else none
        | .scalar plain text :: _ =>
          let n := if tag == some "!" then Node.scalar none true text else .scalar tag plain text
          finish (some (n, r.skip))
        | .flowSequenceStart :: _ =>
          finish ((flowItems fuel true [] r.skip).map fun (items, r) => (.sequence tag items, r))
        | .flowMappingStart :: _ =>
          finish ((flowEntries fuel true [] r.skip).map fun (es, r) => (.mapping tag es, r))
        | .blockSequenceStart :: _ =>
          if block then
            finish ((blockItems fuel [] r.skip).map fun (items, r) => (.sequence tag items, r))
          else none
        | .blockMappingStart :: _ =>
          if block then
            finish ((blockEntries fuel [] r.skip).map fun (es, r) => (.mapping tag es, r))
          else none
        | _ =>
          if name.isSome || tag.isSome then finish (some (.scalar tag true "", r)) else none

def blockItems : (fuel : Nat) → (seen : List Node) → NodeReader → Option (List Node × NodeReader)
  | 0, _, _ => none
  | fuel + 1, seen, r =>
    match r.head? with
    | some .blockEntry =>
      let r := r.skip
      if r.at' [.blockEntry, .blockEnd] then blockItems fuel (blank :: seen) r
      else
        match node fuel true false r with
        | none => none
        | some (n, r) => blockItems fuel (n :: seen) r
    | some .blockEnd => some (seen.reverse, r.skip)
    | _ => none

def indentlessItems : (fuel : Nat) → (seen : List Node) → NodeReader →
    Option (List Node × NodeReader)
  | 0, _, _ => none
  | fuel + 1, seen, r =>
    match r.head? with
    | some .blockEntry =>
      let r := r.skip
      if r.at' [.blockEntry, .key, .value, .blockEnd] then indentlessItems fuel (blank :: seen) r
      else
        match node fuel true false r with
        | none => none
        | some (n, r) => indentlessItems fuel (n :: seen) r
    | _ => some (seen.reverse, r)

def blockEntries : (fuel : Nat) → (seen : List (Node × Node)) → NodeReader →
    Option (List (Node × Node) × NodeReader)
  | 0, _, _ => none
  | fuel + 1, seen, r =>
    let part (r : NodeReader) : Option (Node × NodeReader) :=
      if r.at' [.key, .value, .blockEnd] then some (blank, r) else node fuel true true r
    let value (k : Node) (r : NodeReader) : Option (List (Node × Node) × NodeReader) :=
      match r.head? with
      | some .value =>
        match part r.skip with
        | none => none
        | some (v, r) => blockEntries fuel ((k, v) :: seen) r
      | _ => blockEntries fuel ((k, blank) :: seen) r
    match r.head? with
    | some .key =>
      match part r.skip with
      | none => none
      | some (k, r) => value k r
    | some .value => value blank r
    | some .blockEnd => some (seen.reverse, r.skip)
    | _ => none

def flowItems : (fuel : Nat) → (first : Bool) → (seen : List Node) → NodeReader →
    Option (List Node × NodeReader)
  | 0, _, _, _ => none
  | fuel + 1, first, seen, r =>
    match r.head? with
    | some .flowSequenceEnd => some (seen.reverse, r.skip)
    | _ =>
      match (if first then some r
        else if r.head? == some .flowEntry then some r.skip else none) with
      | none => none
      | some r =>
        match r.head? with
        | some .flowSequenceEnd => some (seen.reverse, r.skip)
        | some .key =>
          match flowPair fuel r.skip with
          | none => none
          | some (n, r) => flowItems fuel false (n :: seen) r
        | _ =>
          match node fuel false false r with
          | none => none
          | some (n, r) => flowItems fuel false (n :: seen) r

/-- A single pair in a flow sequence is a mapping of its own. -/
def flowPair : (fuel : Nat) → NodeReader → Option (Node × NodeReader)
  | 0, _ => none
  | fuel + 1, r =>
    let key :=
      if r.at' [.value, .flowEntry, .flowSequenceEnd] then some (blank, r)
      else node fuel false false r
    match key with
    | none => none
    | some (k, r) =>
      match r.head? with
      | some .value =>
        let r := r.skip
        if r.at' [.flowEntry, .flowSequenceEnd] then some (.mapping none [(k, blank)], r)
        else (node fuel false false r).map fun (v, r) => (.mapping none [(k, v)], r)
      | _ => some (.mapping none [(k, blank)], r)

def flowEntries : (fuel : Nat) → (first : Bool) → (seen : List (Node × Node)) → NodeReader →
    Option (List (Node × Node) × NodeReader)
  | 0, _, _, _ => none
  | fuel + 1, first, seen, r =>
    match r.head? with
    | some .flowMappingEnd => some (seen.reverse, r.skip)
    | _ =>
      match (if first then some r
        else if r.head? == some .flowEntry then some r.skip else none) with
      | none => none
      | some r =>
        match r.head? with
        | some .flowMappingEnd => some (seen.reverse, r.skip)
        | some .key =>
          let r := r.skip
          let key :=
            if r.at' [.value, .flowEntry, .flowMappingEnd] then some (blank, r)
            else node fuel false false r
          match key with
          | none => none
          | some (k, r) =>
            match r.head? with
            | some .value =>
              let r := r.skip
              if r.at' [.flowEntry, .flowMappingEnd] then
                flowEntries fuel false ((k, blank) :: seen) r
              else
                match node fuel false false r with
                | none => none
                | some (v, r) => flowEntries fuel false ((k, v) :: seen) r
            | _ => flowEntries fuel false ((k, blank) :: seen) r
        | _ =>
          match node fuel false false r with
          | none => none
          | some (k, r) => flowEntries fuel false ((k, blank) :: seen) r

end

/-- Reads the directives in front of a document. A version and a handle are given at most once. -/
def directives : (fuel : Nat) → (versioned : Bool) → NodeReader → Option NodeReader
  | 0, _, _ => none
  | fuel + 1, versioned, r =>
    match r.tokens with
    | .versionDirective :: _ => if versioned then none else directives fuel true r.skip
    | .tagDirective h s :: _ =>
      if r.handles.any fun known => known.1 == h then none
      else directives fuel versioned { r.skip with handles := (h, s) :: r.handles }
    | _ => some r

/-- Reads documents up to the end of the stream or to the first fault, and says whether there was
none. Only the first document may lack its start mark. -/
def documents : (fuel : Nat) → (first : Bool) → List Token → List Document × Bool
  | 0, _, _ => ([], false)
  | fuel + 1, first, ts =>
    let ts := if first then ts else ts.dropWhile fun t => t == Token.documentEnd
    match ts with
    | [] => ([], false)
    | .streamEnd :: _ => ([], true)
    | t :: _ =>
      let bare := first && !(match t with
        | .versionDirective | .tagDirective .. | .documentStart => true
        | _ => false)
      match (if bare then some { tokens := ts : NodeReader }
        else
          match directives (ts.length + 1) false { tokens := ts } with
          | none => none
          | some r => if r.head? == some .documentStart then some r.skip else none) with
      | none => ([], false)
      | some r =>
        let isEnd (r : NodeReader) : Bool :=
          match r.head? with
          | some .versionDirective | some (.tagDirective ..) | some .documentStart
          | some .documentEnd | some .streamEnd => true
          | _ => false
        match (if isEnd r && !bare then some (blank, r)
          else node (3 * r.tokens.length + 10) true false r) with
        | none => ([], false)
        | some (root, r) =>
          if r.tokens.isEmpty then ([], false)
          else
            let rest := if r.head? == some .documentEnd then r.skip.tokens else r.tokens
            let (more, complete) := documents fuel false rest
            ({ root, named := r.named } :: more, complete)

end NodeReader

/-- The documents of a text. When it is malformed, those before the fault, and false. -/
def documents (text : List Char) : List Document × Bool :=
  let ts := tokensOf text
  NodeReader.documents (ts.length + 1) true ts

end ClusterDeploy.Yaml
