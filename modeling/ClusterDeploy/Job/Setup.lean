import ClusterDeploy.Bootstrap.Basic
import ClusterDeploy.CommandLine.Basic
import ClusterDeploy.Environment.File
import ClusterDeploy.Service.Config
import ClusterDeploy.Settings
/-!
# What a job is set up with

Everything that a job reads before it starts: the settings, the configuration of the service and the
env file, in this order.
-/
namespace ClusterDeploy

structure Setup where
  settings : Settings
  service : ServiceConfig
  target : TargetResource
  environment : EnvFile
  /-- The kubeconfig store, or why it cannot be told where it is. -/
  store : Except Failure KubeconfigStore

/-- The cluster that a command line names: its own parameters come before the env file. -/
def CommandLine.target (c : CommandLine) (e : Environment) : TargetResource :=
  let value (given : Option String) (name : String) := (given.or (e.get? name)).getD ""
  { subscription := value c.subscription Environment.subscriptionVar
    resourceGroup := value c.resourceGroup Environment.resourceGroupVar
    name := value c.cluster Environment.clusterVar }

namespace Setup

/-- Reads everything; the second part is the tree afterwards, in which missing settings were
created. -/
def load (files : FileTree) (lookup : String → Option String) (home : String) (c : CommandLine) :
    Except Failure Setup × FileTree :=
  match Settings.load files lookup home c.settings with
  | (.error e, files) => (.error e, files)
  | (.ok settings, files) =>
    match ServiceConfig.load files c.service with
    | .error e => (.error ⟨s!"failed to load service config {c.service}", .error e⟩, files)
    | .ok service =>
      match EnvFile.load files c.envFile with
      | .error e => (.error ⟨s!"failed to load environment {c.envFile}", .error e⟩, files)
      | .ok environment =>
        (.ok {
          settings, service, environment
          target := c.target environment.values
          store := settings.store lookup home }, files)

/-- The cluster to log in to is the one that the env file names, and the one of the command line
only where the env file names none. -/
def bootstrapConfig (s : Setup) : BootstrapConfig :=
  let config := BootstrapConfig.ofEnvironment s.environment.values s.service.inNamespace
  { config with
    cluster := config.cluster.or (if s.target.name.isEmpty then none else some s.target.name) }

def bootstrapper (s : Setup) : Except Failure Bootstrapper :=
  s.store.map fun _ => { config := s.bootstrapConfig, target := s.target }

end Setup

end ClusterDeploy
