import ClusterDeploy.Error
import ClusterDeploy.Json.Basic
import ClusterDeploy.Yaml.Node
/-!
# Service configurations

What a service is called, where its sources are, and how it is named inside the cluster. It is read
from a YAML file, in which every scalar stands for its text, or from JSON, in which only texts are.
-/
namespace ClusterDeploy

structure IngressOptions where
  name : String := ""
  relativePath : String := ""
  deriving DecidableEq, Repr, Inhabited

structure ClusterOptions where
  /-- The namespace of the service; the project's name when it is empty. -/
  inNamespace : String := ""
  /-- The folder of manifests below the service; `manifests` when it is empty. -/
  deploymentPath : String := ""
  ingress : IngressOptions := {}
  deploymentName : String := ""
  serviceName : String := ""
  deriving DecidableEq, Repr, Inhabited

structure ServiceConfig where
  name : String
  project : String := ""
  relativePath : String := ""
  k8s : ClusterOptions := {}
  deriving DecidableEq, Repr, Inhabited

/-- A value of either format as far as a configuration looks at it. -/
inductive ConfigValue where
  | text (s : String)
  /-- A YAML value that is not there: an empty text, or no members. -/
  | blank
  | fields (members : List (String × ConfigValue))
  | items (values : List ConfigValue)
  | other
  deriving Inhabited

namespace ConfigValue

mutual

def ofJson : Json → ConfigValue
  | .str s => text s
  | .arr values => items (ofJsonItems values)
  | .obj members => fields (ofJsonMembers members)
  | _ => other

def ofJsonItems : List Json → List ConfigValue
  | [] => []
  | j :: more => ofJson j :: ofJsonItems more

/-- Of several members of one name only the last one counts. -/
def ofJsonMembers : List (String × Json) → List (String × ConfigValue)
  | [] => []
  | (name, j) :: more =>
    if more.any fun m => m.1 == name then ofJsonMembers more
    else (name, ofJson j) :: ofJsonMembers more

end

/-- Reads a node of a document. A sequence stands for nothing here, and neither does a mapping with
a key that is not a scalar. -/
def ofNode (d : Yaml.Document) : (depth : Nat) → Yaml.Node → ConfigValue
  | 0, _ => other
  | depth + 1, n =>
    match d.follow n with
    | .scalar _ plain s => if plain && s.isEmpty then blank else text s
    | .mapping _ entries =>
      let key (k : Yaml.Node) : Option String :=
        match ofNode d depth k with
        | text s => some s
        | blank => some ""
        | _ => none
      match entries.mapM fun (k, v) => (key k).map (·, ofNode d depth v) with
      | some members => fields members
      | none => other
    | _ => other

/-- The fields of a record by position in a list, or by name. A field must not be given twice. -/
def select (names : List String) : ConfigValue → Option (String → Option ConfigValue)
  | blank => some fun _ => none
  | fields members =>
    if names.all fun n => (members.filter fun m => m.1 == n).length ≤ 1 then
      some fun n => (members.find? fun m => m.1 == n).map (·.2)
    else none
  | items values =>
    if values.length ≤ names.length then
      some fun n => ((names.zip values).find? fun e => e.1 == n).map (·.2)
    else none
  | _ => none

/-- A text field; a missing one is empty. -/
def textField (get : String → Option ConfigValue) (name : String) : Option String :=
  match get name with
  | none => some ""
  | some (text s) => some s
  | some blank => some ""
  | some _ => none

def nameOnly (get : String → Option ConfigValue) (field : String) : Option String :=
  match get field with
  | none => some ""
  | some v => do textField (← select ["name"] v) "name"

def ingress? (v : ConfigValue) : Option IngressOptions := do
  let get ← select ["name", "relativePath"] v
  return { name := ← textField get "name", relativePath := ← textField get "relativePath" }

def options? (v : ConfigValue) : Option ClusterOptions := do
  let get ← select ["namespace", "deploymentPath", "ingress", "deployment", "service"] v
  let ingress ←
    match get "ingress" with
    | none => some {}
    | some v => ingress? v
  return {
    inNamespace := ← textField get "namespace"
    deploymentPath := ← textField get "deploymentPath"
    ingress
    deploymentName := ← nameOnly get "deployment"
    serviceName := ← nameOnly get "service" }

/-- A configuration needs a name, and everything else may be missing. -/
def config? (v : ConfigValue) : Option ServiceConfig := do
  let get ← select ["name", "project", "relativePath", "k8s"] v
  if (get "name").isNone then none
  let k8s ←
    match get "k8s" with
    | none => some {}
    | some v => options? v
  return {
    name := ← textField get "name"
    project := ← textField get "project"
    relativePath := ← textField get "relativePath"
    k8s }

end ConfigValue

namespace ServiceConfig

def ofJson? (j : Json) : Option ServiceConfig := (ConfigValue.ofJson j).config?

def ofYaml? (text : String) : Option ServiceConfig :=
  match Yaml.documents text.toList with
  | ([d], true) => (ConfigValue.ofNode d 128 d.root).config?
  | _ => none

/-- Reads a configuration file. A relative source path starts from the folder of the file. -/
def load (files : FileTree) (path : String) : Except Error ServiceConfig :=
  match files.readText path with
  | .error e => .error (.fileUnreadable path e)
  | .ok text =>
    match ofYaml? text with
    | none => .error (.parseServiceConfig path)
    | some config =>
      if Path.isAbsolute config.relativePath then .ok config
      else
        match Path.parent? path with
        | none => .ok config
        | some folder => .ok { config with relativePath := Path.join folder config.relativePath }

def inNamespace (c : ServiceConfig) : String :=
  if c.k8s.inNamespace.isEmpty then c.project else c.k8s.inNamespace

def defaultFolder : String := "manifests"

def manifests (c : ServiceConfig) : String :=
  Path.join c.relativePath
    (if c.k8s.deploymentPath.isEmpty then defaultFolder else c.k8s.deploymentPath)

def orName (c : ServiceConfig) (name : String) : String := if name.isEmpty then c.name else name

def deploymentName (c : ServiceConfig) : String := c.orName c.k8s.deploymentName

def serviceName (c : ServiceConfig) : String := c.orName c.k8s.serviceName

def ingressName (c : ServiceConfig) : String := c.orName c.k8s.ingress.name

def ingressPath (c : ServiceConfig) : String := c.k8s.ingress.relativePath

def toJson (c : ServiceConfig) : Json :=
  .obj [("name", .str c.name), ("project", .str c.project), ("relativePath", .str c.relativePath),
    ("k8s", .obj [
      ("namespace", .str c.k8s.inNamespace), ("deploymentPath", .str c.k8s.deploymentPath),
      ("ingress", .obj [("name", .str c.k8s.ingress.name),
        ("relativePath", .str c.k8s.ingress.relativePath)]),
      ("deployment", .obj [("name", .str c.k8s.deploymentName)]),
      ("service", .obj [("name", .str c.k8s.serviceName)])])]

end ServiceConfig

end ClusterDeploy
