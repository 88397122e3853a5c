import ClusterDeploy.Json.Basic
import ClusterDeploy.Yaml.Node
import ClusterDeploy.Yaml.Scalar
/-!
# YAML values

A document with its references replaced by what they refer to and its scalars understood. Whole
numbers must fit 64 bits, keys of a mapping must differ, and nesting is limited to 128 levels, which
also ends a reference to an enclosing node.
-/
namespace ClusterDeploy.Yaml

inductive Value where
  | scalar (s : Scalar)
  | sequence (items : List Value)
  | mapping (entries : List (Value × Value))
  | tagged (tag : String) (value : Value)
  deriving Repr, Inhabited

mutual

/-- The values are the same; the entries of a mapping are compared in their order. -/
def Value.same : Value → Value → Bool
  | .scalar s, .scalar t => s == t
  | .sequence items, .sequence others => sameItems items others
  | .mapping entries, .mapping others => sameEntries entries others
  | .tagged tag v, .tagged other w => tag == other && v.same w
  | _, _ => false

def Value.sameItems : List Value → List Value → Bool
  | [], [] => true
  | v :: more, w :: others => v.same w && sameItems more others
  | _, _ => false

def Value.sameEntries : List (Value × Value) → List (Value × Value) → Bool
  | [], [] => true
  | (k, v) :: more, (l, w) :: others => k.same l && v.same w && sameEntries more others
  | _, _ => false

end

instance : BEq Value := ⟨Value.same⟩

def localTag? (tag : Option String) : Option String :=
  match tag.map String.toList with
  | some ('!' :: c :: rest) => some (String.ofList (c :: rest))
  | _ => none

/-- Whole numbers outside 64 bits are refused. -/
def checkedScalar (s : Scalar) : Option Scalar :=
  match s with
  | .int n => if -9223372036854775808 ≤ n && n < 18446744073709551616 then some s else none
  | other => some other

/-- A scalar under one of the standard tags must be of that kind. -/
def taggedScalar? (tag text : String) : Option Scalar :=
  let cs := text.toList
  if tag == "tag:yaml.org,2002:bool" then (boolWord? text).map .bool
  else if tag == "tag:yaml.org,2002:int" then (integer? cs).map .int
  else if tag == "tag:yaml.org,2002:float" then
    if isUnbounded text then some .unbounded else (float? cs).map .float
  else if tag == "tag:yaml.org,2002:null" then
    if nullWord text && !text.isEmpty then some .null else none
  else some (.str text)

def scalar? (tag : Option String) (plain : Bool) (text : String) : Option Scalar :=
  match tag with
  | some t => taggedScalar? t text
  | none => some (if plain then Scalar.ofPlain text else .str text)

def withTag (tag : Option String) (v : Value) : Value :=
  match localTag? tag with
  | some name => .tagged name v
  | none => v

def distinctKeys : List (Value × Value) → Bool
  | [] => true
  | (k, _) :: more => !(more.any fun e => e.1 == k) && distinctKeys more

/-- The value of a node, with `depth` levels of nesting still allowed. -/
def Document.expand (d : Document) : (depth : Nat) → Node → Option Value
  | depth, n =>
    match d.follow n with
    | .alias _ => none
    | .scalar tag plain text => do
      match localTag? tag with
      | some name =>
        let s ← checkedScalar (if plain then Scalar.ofPlain text else .str text)
        return .tagged name (.scalar s)
      | none => return .scalar (← checkedScalar (← scalar? tag plain text))
    | .sequence tag items =>
      match depth with
      | 0 => none
      | depth + 1 => (items.mapM (d.expand depth)).map fun vs => withTag tag (.sequence vs)
    | .mapping tag entries =>
      match depth with
      | 0 => none
      | depth + 1 => do
        let es ← entries.mapM fun (k, v) => do return (← d.expand depth k, ← d.expand depth v)
        if distinctKeys es then return withTag tag (.mapping es) else none

def Document.value? (d : Document) : Option Value := d.expand 128 d.root

namespace Value

def untagged : Value → Value
  | tagged _ v => v.untagged
  | other => other

def str? (v : Value) : Option String :=
  match v.untagged with
  | scalar (.str s) => some s
  | _ => none

def bool? (v : Value) : Option Bool :=
  match v.untagged with
  | scalar (.bool b) => some b
  | _ => none

def isNull (v : Value) : Bool :=
  match v.untagged with
  | scalar .null => true
  | _ => false

/-- The items of a sequence; null has none. -/
def items? (v : Value) : Option (List Value) :=
  match v.untagged with
  | sequence items => some items
  | scalar .null => some []
  | _ => none

/-- The entries of a mapping whose keys are texts; null has none. -/
def fields? (v : Value) : Option (List (String × Value)) :=
  match v.untagged with
  | mapping entries => entries.mapM fun (k, v) => do return (← k.str?, v)
  | scalar .null => some []
  | _ => none

def scalarJson : Scalar → Json
  | .null => .null
  | .bool b => .bool b
  | .int n => .num (.int n)
  | .float x => .num (.float x)
  | .unbounded => .null
  | .str s => .str s

mutual

/-- The value as JSON; keys must be texts and tags have no counterpart. -/
def toJson? : Value → Option Json
  | scalar s => some (scalarJson s)
  | sequence items => (itemsToJson? items).map .arr
  | mapping entries => (entriesToJson? entries).map fun ms => .obj (Json.sortMembers ms)
  | tagged _ _ => none

def itemsToJson? : List Value → Option (List Json)
  | [] => some []
  | v :: more =>
    match v.toJson?, itemsToJson? more with
    | some j, some js => some (j :: js)
    | _, _ => none

def entriesToJson? : List (Value × Value) → Option (List (String × Json))
  | [] => some []
  | (k, v) :: more =>
    match k.str?, v.toJson?, entriesToJson? more with
    | some name, some j, some js => some ((name, j) :: js)
    | _, _, _ => none

end

end Value

end ClusterDeploy.Yaml
