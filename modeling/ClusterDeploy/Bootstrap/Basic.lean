import ClusterDeploy.Bootstrap.Config
import ClusterDeploy.Flow.Basic
import ClusterDeploy.Kubeconfig.Text
import ClusterDeploy.Target
/-!
# Bootstrapping the access to a cluster

A login is fetched, merged into the kubeconfig file and made current; then the namespace of the
service is created when it is missing. An explicit kubeconfig takes the place of the login.
-/
namespace ClusterDeploy

structure BootstrapOutcome where
  /-- The kubeconfig in use from now on. -/
  kubeconfig : String
  inNamespace : String
  usedOverride : Bool
  deriving DecidableEq, Repr

structure Bootstrapper where
  config : BootstrapConfig
  target : TargetResource
  /-- The outcome of the first attempt to ensure the access that succeeded. -/
  ensured : Option BootstrapOutcome := none
  deriving DecidableEq, Repr

namespace Bootstrapper

open Attempt (call wrap)

/-- Only the first kubeconfig of a login is used. -/
def firstOf : List (List UInt8) → Except Error (List UInt8)
  | [] => .error .emptyCredentials
  | blob :: _ => .ok blob

def fetchLogin (target : TargetResource) (cluster : String) : Attempt (List UInt8) := do
  let blobs ← wrap .fetchCredentials
    (Attempt.of (Flow.call
      (.request (.credentials target.subscription target.resourceGroup cluster))))
  Attempt.ofExcept (firstOf blobs)

def loginOf (config : Kubeconfig) (cluster inNamespace : String) : Except Error Kubeconfig :=
  match config.loginFor cluster inNamespace with
  | none => .error (.missingContext cluster)
  | some login => .ok login

def adoptLogin (inNamespace cluster : String) (blob : List UInt8) : Attempt String := do
  let config ← Attempt.ofExcept (Kubeconfig.parse blob)
  let login ← Attempt.ofExcept (loginOf config cluster inNamespace)
  let path ← wrap (.updateContext cluster) (Attempt.of (Flow.call (.addContext cluster login)))
  call (.request (.setKubeconfig path))
  let _ ← wrap (.useContext cluster) (Attempt.of (Flow.call (.request (.useContext cluster))))
  return path

def login (b : Bootstrapper) : Attempt String :=
  match b.config.cluster with
  | none => throw (.bootstrap .credentialsFetched (.missingClusterName Environment.clusterVar))
  | some cluster => do
    let blob ← wrap (.bootstrap .credentialsFetched) (fetchLogin b.target cluster)
    call (.reach .credentialsFetched)
    let path ← wrap (.bootstrap .contextMerged) (adoptLogin b.config.inNamespace cluster blob)
    call (.reach .contextMerged)
    return path

/-- Renders the namespace without creating it and applies the rendering, so that one that exists is
left alone. -/
def ensureNamespace (name : String) : Attempt Unit := do
  let rendered ← wrap (.createNamespace name)
    (Attempt.of (Flow.call (.request (.createNamespace name .dryRunYaml))))
  let _ ← wrap (.applyNamespace name)
    (Attempt.of (Flow.call (.request (.applyInput rendered.stdout))))

def access (b : Bootstrapper) : Attempt (String × Bool) :=
  match b.config.kubeconfigOverride with
  | some path => do
    call (.request (.setKubeconfig path))
    return (path, true)
  | none => return (← b.login, false)

/-- An explicit kubeconfig is pointed out before a deploy. -/
def notice (path : String) (usedOverride : Bool) (event : LifecycleEvent) : Attempt Unit :=
  if usedOverride && event == .preDeploy then call (.warn (.explicitKubeconfig path)) else pure ()

def run (b : Bootstrapper) (event : LifecycleEvent) : Attempt BootstrapOutcome := do
  call (.reach .noConfig)
  let (path, usedOverride) ← b.access
  wrap (.bootstrap .namespaceEnsured) (ensureNamespace b.config.inNamespace)
  call (.reach .namespaceEnsured)
  notice path usedOverride event
  call (.reach .ready)
  return ⟨path, b.config.inNamespace, usedOverride⟩

/-- Runs once; afterwards the outcome of the first success is repeated. A failure is not kept. -/
def ensure (b : Bootstrapper) : Flow (Except Error BootstrapOutcome × Bootstrapper) :=
  match b.ensured with
  | some outcome => .done (.ok outcome, b)
  | none =>
    Flow.bind (b.run .preDeploy).run fun r =>
      .done (r, { b with ensured := r.toOption })

end Bootstrapper

end ClusterDeploy
