import ClusterDeploy.Bootstrap.State
import ClusterDeploy.Cluster.Kind
import ClusterDeploy.Duration
import ClusterDeploy.Files.Tree
/-!
# Errors

One constructor for each way in which a deploy, a bootstrap or one of their steps fails. An error
that wraps another keeps it, so the whole chain of causes can be shown. Faults end a chain.
-/
namespace ClusterDeploy

inductive UrlFault where
  | emptyHost
  | invalidDomain
  | invalidPort
  | invalidIpv4
  | invalidIpv6
  | invalidDomainCharacter
  | relativeWithoutBase
  deriving DecidableEq, Repr

def UrlFault.message : UrlFault → String
  | emptyHost => "empty host"
  | invalidDomain => "invalid international domain name"
  | invalidPort => "invalid port number"
  | invalidIpv4 => "invalid IPv4 address"
  | invalidIpv6 => "invalid IPv6 address"
  | invalidDomainCharacter => "invalid domain character"
  | relativeWithoutBase => "relative URL without a base"

inductive KubeconfigFault where
  | parse
  | shape
  | kindMismatch
  | apiVersionMismatch
  deriving DecidableEq, Repr

inductive SettingsFault where
  | badToml
  | unopened (source : IoFault)
  | unreadable (source : IoFault)
  /-- The path names no folder to create the file in. -/
  | noFolder
  | folder (source : IoFault)
  | unwritable (source : IoFault)
  deriving DecidableEq, Repr

inductive Error where
  | resourceNotFound (kind : ResourceKind)
  | resourceNotReady (kind : ResourceKind) (name : String) (timeout : Nat)
  | cancelled (kind : ResourceKind)
  | listResources (kind : ResourceKind) (source : Error)
  | decodeResource (kind : ResourceKind)
  | missingResourceGroup (resource : String)
  | missingPackageOutput
  | missingClusterName (setting : String)
  | fetchCredentials (source : Error)
  | emptyCredentials
  | kubeconfigEncoding (source : Text.Utf8Fault)
  | parseKubeconfig (source : KubeconfigFault)
  | missingContext (cluster : String)
  | updateContext (name : String) (source : Error)
  | useContext (name : String) (source : Error)
  | createNamespace (name : String) (source : Error)
  | applyNamespace (name : String) (source : Error)
  | applyManifests (path : String) (source : Error)
  | containerDeploy (service : String) (source : Error)
  | serviceEndpoints (source : Error)
  | ingressEndpoints (source : Error)
  | endpointUrl (base : String) (source : UrlFault)
  | saveEndpoint (source : Error)
  | bootstrap (state : BootstrapState) (source : Error)
  | command (line : String) (code : Option Nat) (stderr : String)
  | spawn (line : String) (source : IoFault)
  | fileUnreadable (path : String) (source : IoFault)
  | fileUnwritable (path : String) (source : IoFault)
  | parseServiceConfig (path : String)
  | invalidEnvLine (path : String) (line : Nat) (content : String)
  deriving DecidableEq, Repr

/-- A failure outside the flow itself, at which a chain of causes ends. -/
inductive Fault where
  | io (fault : IoFault)
  | url (fault : UrlFault)
  | utf8 (fault : Text.Utf8Fault)
  | kubeconfig (fault : KubeconfigFault)
  | json
  | yaml
  | settings (fault : SettingsFault)
  | lookup (setting : String)
  deriving DecidableEq, Repr

namespace Error

/-- The tolerated condition: nothing of the kind ever matched. -/
def isNotFound : Error → Bool
  | resourceNotFound _ => true
  | _ => false

/-- An exit code as it is printed; a tool that a signal ended has none. -/
def codeText : Option Nat → String
  | some n => s!"Some({n})"
  | none => "None"

def message : Error → String
  | resourceNotFound kind => s!"cannot find resource for '{kind.label}'"
  | resourceNotReady kind name timeout =>
    s!"resource '{kind.label}/{name}' is not ready after {Duration.text timeout}"
  | cancelled kind => s!"waiting for '{kind.label}' was cancelled"
  | listResources kind _ => s!"failed waiting for resource '{kind.label}'"
  | decodeResource kind => s!"failed decoding '{kind.label}' resource"
  | missingResourceGroup resource =>
    s!"missing resource group name for resource '{resource}'. " ++
      "Pass --resource-group or set AZURE_RESOURCE_GROUP in the env file"
  | missingPackageOutput => "missing package output"
  | missingClusterName setting =>
    s!"could not determine AKS cluster, ensure {setting} is set as an output of your " ++
      "infrastructure"
  | fetchCredentials _ =>
    "failed retrieving cluster admin credentials. " ++
      "Ensure your cluster has been configured to support admin credentials"
  | emptyCredentials =>
    "cluster credentials is empty. " ++
      "Ensure your cluster has been configured to support admin credentials"
  | kubeconfigEncoding _ => "kube config is not valid utf-8"
  | parseKubeconfig _ => "failed parsing kube config. Ensure your configuration is valid yaml"
  | missingContext cluster => s!"kube config for cluster '{cluster}' does not define a context"
  | updateContext name _ => s!"failed adding/updating kube context '{name}'"
  | useContext name _ =>
    s!"failed setting kube context '{name}'. Ensure the specified context exists"
  | createNamespace name _ => s!"failed creating kube namespace '{name}'"
  | applyNamespace name _ => s!"failed applying kube namespace '{name}'"
  | applyManifests path _ => s!"failed applying kube manifests from {path}"
  | containerDeploy service _ => s!"failed deploying container image for service '{service}'"
  | serviceEndpoints _ => "failed retrieving service endpoints"
  | ingressEndpoints _ => "failed retrieving ingress endpoints"
  | endpointUrl base _ => s!"failed constructing service endpoints from '{base}'"
  | saveEndpoint _ => "failed updating environment with endpoint url"
  | bootstrap state _ => s!"cluster context bootstrap failed before reaching {state.label}"
  | command line code stderr =>
    "\x60" ++ line ++ "\x60 exited with " ++ codeText code ++ ": " ++ stderr
  | spawn line _ => "failed to run \x60" ++ line ++ "\x60"
  | fileUnreadable path _ => s!"failed to read {path}"
  | fileUnwritable path _ => s!"failed to write {path}"
  | parseServiceConfig path => s!"failed to parse service config {path}"
  | invalidEnvLine path line content => s!"invalid line {line} in {path}: {content}"

def causes : Error → List Error × Option Fault
  | listResources _ e | fetchCredentials e | updateContext _ e | useContext _ e
  | createNamespace _ e | applyNamespace _ e | applyManifests _ e | containerDeploy _ e
  | serviceEndpoints e | ingressEndpoints e | saveEndpoint e | bootstrap _ e =>
    (e :: e.causes.1, e.causes.2)
  | decodeResource _ => ([], some .json)
  | kubeconfigEncoding f => ([], some (.utf8 f))
  | parseKubeconfig f => ([], some (.kubeconfig f))
  | endpointUrl _ f => ([], some (.url f))
  | spawn _ f | fileUnreadable _ f | fileUnwritable _ f => ([], some (.io f))
  | parseServiceConfig _ => ([], some .yaml)
  | _ => ([], none)

end Error

/-- The text of a fault. One that only its reader could put into words has none. -/
def Fault.message? : Fault → Option String
  | .io f => some f.message
  | .url f => some f.message
  | .utf8 f => some f.message
  | .lookup name => some s!"error looking key '{name}' up: environment variable not found"
  | .kubeconfig .kindMismatch => some "kubeconfigs with mismatching kind cannot be merged"
  | .kubeconfig .apiVersionMismatch =>
    some "kubeconfigs with mismatching api version cannot be merged"
  | .settings .badToml => some "Bad TOML data"
  | .settings (.unopened _) => some "Failed to load configuration file"
  | .settings (.unreadable _) => some "Failed to read configuration file"
  | .settings .noFolder => some "Bad configuration directory"
  | .settings (.folder _) => some "Failed to create directory"
  | .settings (.unwritable _) => some "Failed to write configuration file"
  | _ => none

def Fault.source? : Fault → Option IoFault
  | .settings (.unopened e) | .settings (.unreadable e) | .settings (.folder e)
  | .settings (.unwritable e) => some e
  | _ => none

inductive Cause where
  | error (e : Error)
  | fault (f : Fault)
  deriving DecidableEq, Repr

structure Failure where
  context : String
  cause : Cause
  deriving DecidableEq, Repr

namespace Failure

def faultTexts (f : Fault) : List String :=
  f.message?.toList ++ f.source?.toList.map IoFault.message

def causeTexts (f : Failure) : List String :=
  match f.cause with
  | .fault fault => faultTexts fault
  | .error e => e.message :: e.causes.1.map Error.message ++ (e.causes.2.toList.flatMap faultTexts)

/-- The lines of a text after the first one go below its start. -/
def indentText (columns : Nat) (text : String) : String :=
  ("\n" ++ "".pushn ' ' columns).intercalate (text.splitOn "\n")

def numbered (n : Nat) (text : String) : String :=
  "".pushn ' ' (5 - (toString n).length) ++ toString n ++ ": " ++ indentText 7 text

def numberedFrom : (n : Nat) → List String → List String
  | _, [] => []
  | n, text :: more => numbered n text :: numberedFrom (n + 1) more

def report (f : Failure) : String :=
  let head := s!"Error: {f.context}"
  match f.causeTexts with
  | [] => head
  | [text] => head ++ "\n\nCaused by:\n    " ++ indentText 4 text
  | texts => head ++ "\n\nCaused by:\n" ++ "\n".intercalate (numberedFrom 0 texts)

end Failure

end ClusterDeploy
