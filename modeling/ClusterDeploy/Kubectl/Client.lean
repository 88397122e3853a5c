import ClusterDeploy.Json.Reader
import ClusterDeploy.Tools.Machine
/-!
# The cluster's command line client

Every call goes out with the kubeconfig and the environment that were set before it.
-/
namespace ClusterDeploy

structure KubectlClient where
  program : String
  environment : List (String × String) := []
  kubeconfig : Option String := none
  deriving DecidableEq, Repr

namespace KubectlClient

def args (k : KubectlClient) (words : List String) (flags : KubectlFlags) : List String :=
  (match k.kubeconfig with
    | some path => ["--kubeconfig", path]
    | none => []) ++ words ++ flags.toArgs

def command (k : KubectlClient) (words : List String) (flags : KubectlFlags := {})
    (stdin : String := "") : Command :=
  { program := k.program
    args := k.args words flags
    vars := k.environment
    stdin := Text.encodeUtf8 stdin }

def apply (k : KubectlClient) (folder : String) (flags : KubectlFlags := {}) : Command :=
  k.command ["apply", "-f", folder] flags

def applyInput (k : KubectlClient) (manifest : String) (flags : KubectlFlags := {}) : Command :=
  k.command ["apply", "-f", "-"] flags manifest

def createNamespace (k : KubectlClient) (name : String) (flags : KubectlFlags := {}) : Command :=
  k.command ["create", "namespace", name] flags

def rolloutStatus (k : KubectlClient) (deployment : String) (flags : KubectlFlags := {}) :
    Command :=
  k.command ["rollout", "status", "deployment/" ++ deployment] flags

def useContext (k : KubectlClient) (name : String) : Command :=
  k.command ["config", "use-context", name]

def list (k : KubectlClient) (kind : ResourceKind) (flags : KubectlFlags := {}) : Command :=
  k.command ["get", kind.label, "-o", "json"] flags

/-- The items of a listing: the member of an object, or the first item of a list. Nothing printed
and no items are an empty listing. -/
def itemsOf? (stdout : String) : Option (List Json) :=
  if Text.isBlankText stdout then some []
  else
    match Json.parse? stdout with
    | some (.obj members) =>
      match members.filter fun m => m.1 == "items" with
      | [] => some []
      | [(_, items)] => items.arr?
      | _ => none
    | some (.arr []) => some []
    | some (.arr [items]) => items.arr?
    | _ => none

def itemsOf (kind : ResourceKind) (output : CommandOutput) : Except Error (List Json) :=
  match itemsOf? output.stdout with
  | some items => .ok items
  | none => .error (.decodeResource kind)

end KubectlClient

end ClusterDeploy
