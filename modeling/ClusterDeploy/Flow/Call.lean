import ClusterDeploy.Endpoint.Basic
import ClusterDeploy.Environment.Basic
import ClusterDeploy.Kubectl.Flags
import ClusterDeploy.Kubeconfig.Basic
import ClusterDeploy.Service.Package
/-!
# Calls

Everything a deploy, a bootstrap or a command asks for while it runs. A request goes to the cluster,
its login service or the image registry, and anything may come back; the other calls concern what
the program keeps itself.
-/
namespace ClusterDeploy

structure CommandOutput where
  stdout : String := ""
  stderr : String := ""
  deriving DecidableEq, Repr, Inhabited

inductive Request where
  /-- The resources of a kind, as the cluster lists them. -/
  | list (kind : ResourceKind)
  | rolloutStatus (deployment : String)
  /-- Applies the manifests of a folder. -/
  | apply (folder : String)
  /-- Applies a manifest given as text. -/
  | applyInput (manifest : String)
  | createNamespace (name : String) (flags : KubectlFlags)
  | useContext (name : String)
  /-- The environment of all further requests. -/
  | setEnvironment (values : Environment)
  /-- The kubeconfig of all further requests. -/
  | setKubeconfig (path : String)
  /-- The kubeconfigs of a login to a cluster. -/
  | credentials (subscription resourceGroup cluster : String)
  | push (service : String) (package : ServicePackage) (resource : String)

@[reducible] def Request.Answer : Request → Type
  | list _ => Except Error (List Json)
  | rolloutStatus _ | apply _ | applyInput _ | createNamespace _ _ | useContext _ =>
    Except Error CommandOutput
  | setEnvironment _ | setKubeconfig _ => Unit
  | credentials _ _ _ => Except Error (List (List UInt8))
  | push _ _ _ => Except Error Unit

inductive Call where
  | request (r : Request)
  /-- Merges a login into the kubeconfig file and asks for its path. -/
  | addContext (name : String) (login : Kubeconfig)
  | environmentValues
  | setProperty (service key value : String)
  | saveEnvironment
  /-- The bootstrap has come to a state. -/
  | reach (state : BootstrapState)
  /-- A label for whoever watches the progress. -/
  | report (label : String)
  | warn (warning : Warning)
  /-- A line for the user. -/
  | say (line : String)

@[reducible] def Call.Answer : Call → Type
  | request r => r.Answer
  | addContext _ _ => Except Error String
  | environmentValues => Environment
  | setProperty _ _ _ => Unit
  | saveEnvironment => Except Error Unit
  | reach _ | report _ | warn _ | say _ => Unit

end ClusterDeploy
