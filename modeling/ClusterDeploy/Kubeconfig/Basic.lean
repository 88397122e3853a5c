import ClusterDeploy.Json.Basic
/-!
# Kubeconfigs

Clusters, users and contexts by name. Merging puts an incoming entry in the place of the first one
of its name, and appends it when there is none; everything else about the existing configuration
stays.
-/
namespace ClusterDeploy

structure Named (α : Type) where
  name : String
  body : Option α
  deriving DecidableEq, Repr, Inhabited

namespace Kubeconfig

/-- Data of another tool, kept as it is. -/
structure Extension where
  name : String
  data : Json
  deriving DecidableEq, Repr, Inhabited

structure Preferences where
  colors : Option Bool := none
  extensions : Option (List Extension) := none
  deriving DecidableEq, Repr, Inhabited

structure Cluster where
  server : Option String := none
  insecureSkipTlsVerify : Option Bool := none
  certificateAuthority : Option String := none
  certificateAuthorityData : Option String := none
  proxyUrl : Option String := none
  disableCompression : Option Bool := none
  tlsServerName : Option String := none
  extensions : Option (List Extension) := none
  deriving DecidableEq, Repr, Inhabited

structure AuthProvider where
  name : String
  config : List (String × String) := []
  deriving DecidableEq, Repr, Inhabited

inductive InteractiveMode where
  | never
  | ifAvailable
  | always
  deriving DecidableEq, Repr

def InteractiveMode.label : InteractiveMode → String
  | never => "Never"
  | ifAvailable => "IfAvailable"
  | always => "Always"

def InteractiveMode.all : List InteractiveMode := [never, ifAvailable, always]

structure ExecPlugin where
  apiVersion : Option String := none
  command : Option String := none
  args : Option (List String) := none
  env : Option (List (List (String × String))) := none
  interactiveMode : Option InteractiveMode := none
  provideClusterInfo : Bool := false
  deriving DecidableEq, Repr, Inhabited

structure User where
  username : Option String := none
  password : Option String := none
  token : Option String := none
  tokenFile : Option String := none
  clientCertificate : Option String := none
  clientCertificateData : Option String := none
  clientKey : Option String := none
  clientKeyData : Option String := none
  impersonate : Option String := none
  impersonateGroups : Option (List String) := none
  authProvider : Option AuthProvider := none
  exec : Option ExecPlugin := none
  deriving DecidableEq, Repr, Inhabited

structure Context where
  cluster : String := ""
  user : Option String := none
  inNamespace : Option String := none
  extensions : Option (List Extension) := none
  deriving DecidableEq, Repr, Inhabited

end Kubeconfig

structure Kubeconfig where
  preferences : Option Kubeconfig.Preferences := none
  clusters : List (Named Kubeconfig.Cluster) := []
  users : List (Named Kubeconfig.User) := []
  contexts : List (Named Kubeconfig.Context) := []
  currentContext : Option String := none
  extensions : Option (List Kubeconfig.Extension) := none
  kind : Option String := none
  apiVersion : Option String := none
  deriving DecidableEq, Repr, Inhabited

namespace Kubeconfig

/-- Replaces the first entry of the same name, or appends the entry. -/
def upsert (entry : Named α) : List (Named α) → List (Named α)
  | [] => [entry]
  | e :: more => if e.name = entry.name then entry :: more else e :: upsert entry more

def upsertAll (entries incoming : List (Named α)) : List (Named α) :=
  incoming.foldl (fun es e => upsert e es) entries

/-- Takes over the entries of another configuration. The kind and the version are only set where
they are absent. -/
def merge (existing incoming : Kubeconfig) : Kubeconfig :=
  { existing with
    clusters := upsertAll existing.clusters incoming.clusters
    users := upsertAll existing.users incoming.users
    contexts := upsertAll existing.contexts incoming.contexts
    apiVersion := some (existing.apiVersion.getD "v1")
    kind := some (existing.kind.getD "Config") }

/-- The entry that a name stands for: the first one that has it. -/
def find? (name : String) (entries : List (Named α)) : Option (Named α) :=
  entries.find? fun e => e.name == name

/-- The part of a login that is stored: its first context, named after the cluster and moved to the
namespace. None when it has no context. -/
def loginFor (login : Kubeconfig) (cluster inNamespace : String) : Option Kubeconfig :=
  match login.contexts with
  | [] => none
  | first :: _ =>
    let body : Context := { first.body.getD {} with inNamespace := some inNamespace }
    some { login with contexts := [⟨cluster, some body⟩], currentContext := some cluster }

end Kubeconfig

end ClusterDeploy
