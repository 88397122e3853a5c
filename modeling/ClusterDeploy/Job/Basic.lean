import ClusterDeploy.Deploy
import ClusterDeploy.Job.Setup
/-!
# Jobs

A job sets up the access to the cluster, does its work and tells the user about it. The first
failure ends it, under a heading that says what was going on.
-/
namespace ClusterDeploy

abbrev Routine := ExceptT Failure Flow

def Attempt.under (context : String) (t : Attempt α) : Routine α :=
  ExceptT.mk (Flow.bind t.run fun r => .done (r.mapError fun e => ⟨context, .error e⟩))

namespace Routine

def ofExcept (r : Except Failure α) : Routine α := ExceptT.mk (.done r)

def say (line : String) : Routine Unit :=
  ExceptT.mk ((Flow.call (.say line)).bind fun _ => .done (.ok ()))

def sayAll : List String → Routine Unit
  | [] => pure ()
  | line :: more => do
    say line
    sayAll more

end Routine

namespace Setup

open Routine (say sayAll)

def accessContext : String := "failed configuring the k8s context"

def ensureAccess (s : Setup) : Routine BootstrapOutcome := do
  let b ← Routine.ofExcept s.bootstrapper
  Attempt.under accessContext (Attempt.of (Flow.bind b.ensure fun r => .done r.1))

def endpointLine (endpoint : String) : String := s!"🌐 {endpoint}"

def deployLines (service : ServiceConfig) (r : DeployResult) : List String :=
  [s!"✅ Deployed {r.package.publishedImage}", s!"   {r.target.id}"] ++
    (if r.details.isNone then
      [s!"ℹ️  No deployment found for '{service.deploymentName}'"] else []) ++
    (if r.endpoints.isEmpty then ["ℹ️  No endpoints found"] else []) ++
    r.endpoints.map endpointLine

def deploy (s : Setup) (package : ServicePackage) : Routine Unit := do
  Attempt.under "validating target resource" (Attempt.ofExcept s.target.validate)
  say s!"🚀 Deploying service '{s.service.name}' to AKS cluster '{s.target.name}'"
  say "🔑 Configuring cluster context..."
  let _ ← s.ensureAccess
  let result ← Attempt.under s!"failed deploying '{s.service.name}'"
    (Deploy.run s.service (some package) s.target s.settings.poll)
  sayAll (deployLines s.service result)

def endpoints (s : Setup) : Routine Unit := do
  let _ ← s.ensureAccess
  let found ← Attempt.under s!"failed resolving endpoints for '{s.service.name}'"
    (Deploy.endpoints s.service s.settings.poll)
  if found.isEmpty then say s!"ℹ️  No endpoints found for '{s.service.name}'"
  sayAll (found.map endpointLine)

/-- Sets up the access anew, as a hook after the cluster has been provisioned. -/
def context (s : Setup) : Routine Unit := do
  say s!"🔑 Configuring k8s context for '{s.service.name}'"
  let b ← Routine.ofExcept s.bootstrapper
  let outcome ← Attempt.under accessContext (b.run .postProvision)
  say s!"✅ kubeconfig: {outcome.kubeconfig}"
  say s!"✅ namespace: {outcome.inNamespace}"

def routine (s : Setup) : Job → Routine Unit
  | .deploy package => s.deploy package
  | .endpoints => s.endpoints
  | .context => s.context

end Setup

end ClusterDeploy
