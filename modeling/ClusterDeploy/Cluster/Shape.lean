import ClusterDeploy.Cluster.Timestamp
import ClusterDeploy.Json.Basic
/-!
# Shapes of cluster objects

A shape says which JSON values an object field takes. Fitting a value to a shape drops unknown
members and nulls, puts the empty value where a required member is missing, and fails as soon as any
known member has a value of another kind.
-/
namespace ClusterDeploy

inductive Shape where
  | any
  | text
  | flag
  | int32
  | int64
  | intOrText
  | time
  /-- Exactly this text. -/
  | exactly (s : String)
  | list (item : Shape)
  /-- Members of any name. -/
  | table (value : Shape)
  /-- Members by name; a required one is marked. -/
  | record (fields : List (String × Bool × Shape))

namespace Shape

def inRange (low high n : Int) : Option Json :=
  if low ≤ n && n ≤ high then some (.num (.int n)) else none

def fitInt32 : Json → Option Json
  | .num (.int n) => inRange (-2147483648) 2147483647 n
  | _ => none

mutual

/-- What stands for a required member that is missing. -/
def blank : Shape → Json
  | any => .null
  | text | time => .str ""
  | flag => .bool false
  | int32 | int64 | intOrText => .ofNat 0
  | exactly s => .str s
  | list _ => .arr []
  | table _ => .obj []
  | record fields => .obj (blankFields fields)

def blankFields : List (String × Bool × Shape) → List (String × Json)
  | [] => []
  | (name, required, shape) :: more =>
    if required then (name, blank shape) :: blankFields more else blankFields more

end

mutual

def fit : Shape → Json → Option Json
  | any, j => some j
  | text, .str s => some (.str s)
  | flag, .bool b => some (.bool b)
  | int32, j => fitInt32 j
  | int64, .num (.int n) => inRange (-9223372036854775808) 9223372036854775807 n
  | intOrText, .str s => some (.str s)
  | intOrText, j => fitInt32 j
  | time, .str s => (Timestamp.normalize? s).map .str
  | exactly s, .str t => if s = t then some (.str s) else none
  | list item, .arr items => (items.mapM (fit item)).map .arr
  | table value, .obj members =>
    (members.mapM fun m => (fit value m.2).map fun j => (m.1, j)).map .obj
  | record fields, .obj members => (fitFields fields members).map .obj
  | _, _ => none

def fitFields : List (String × Bool × Shape) → List (String × Json) → Option (List (String × Json))
  | [], _ => some []
  | (name, required, shape) :: more, members =>
    match fitFields more members with
    | none => none
    | some rest =>
      match Json.lookup name members with
      | none => some (if required then (name, blank shape) :: rest else rest)
      | some .null =>
        match shape with
        | exactly _ => none
        | shape => some (if required then (name, blank shape) :: rest else rest)
      | some j => (fit shape j).map fun j => (name, j) :: rest

end

def optional (name : String) (shape : Shape) : String × Bool × Shape := (name, false, shape)

def required (name : String) (shape : Shape) : String × Bool × Shape := (name, true, shape)

end Shape

end ClusterDeploy
