import ClusterDeploy.Environment.Basic
/-!
# What a bootstrap is told

Settled before it starts: a kubeconfig to use instead of a login, the cluster to log in to, and the
namespace the service lives in.
-/
namespace ClusterDeploy

structure BootstrapConfig where
  kubeconfigOverride : Option String := none
  cluster : Option String := none
  inNamespace : String := ""
  deriving DecidableEq, Repr

/-- A value that is set and not empty. -/
def Environment.getFilled? (e : Environment) (name : String) : Option String :=
  (e.get? name).filter fun v => !v.isEmpty

/-- Takes the override and the cluster from the environment, where empty values count as unset. -/
def BootstrapConfig.ofEnvironment (e : Environment) (inNamespace : String) : BootstrapConfig :=
  { kubeconfigOverride := e.getFilled? Environment.kubeconfigVar
    cluster := e.getFilled? Environment.clusterVar
    inNamespace }

end ClusterDeploy
