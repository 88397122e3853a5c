import ClusterDeploy.Endpoint.Resolve
import ClusterDeploy.Service.Config
import ClusterDeploy.Target
/-!
# Deploying a service

The image is pushed, the manifests are applied, the rollout is verified, and the address of the
service is recorded, in this order; the first failure ends the deploy. Only a deployment, a service
or an ingress that never appears is tolerated.
-/
namespace ClusterDeploy

structure DeployResult where
  package : ServicePackage
  target : TargetResource
  /-- The deployment that was rolled out, when the manifests define one. -/
  details : Option Deployment
  /-- A line for each endpoint. -/
  endpoints : List String

def DeployResult.kind : String := "aks"

def DeployResult.toJson (r : DeployResult) : Json :=
  .obj [("package", r.package.toJson), ("targetResourceId", .str r.target.id),
    ("kind", .str kind), ("details", .ofOption Deployment.object r.details),
    ("endpoints", .ofStrings r.endpoints)]

namespace Deploy

def endpoints (service : ServiceConfig) (poll : PollOptions) : Attempt (List String) := do
  let found ← Endpoint.resolve service.serviceName service.ingressName service.ingressPath poll
  return found.map Endpoint.text

/-- Records the URL of the last endpoint, which is the most public one. -/
def record (service : ServiceConfig) (endpoints : List String) : Attempt Unit :=
  match endpoints.getLast? with
  | none => pure ()
  | some line => do
    Attempt.call (.setProperty service.name Environment.endpointProperty (Endpoint.urlOf line))
    Attempt.wrap .saveEndpoint (Attempt.of (Flow.call .saveEnvironment))

def verify (service : ServiceConfig) (poll : PollOptions) :
    Attempt (Option Deployment × List String) := do
  Attempt.report "Verifying deployment"
  let details ← Attempt.unlessNotFound (rollOut service.deploymentName poll)
  Attempt.report "Fetching endpoints for AKS service"
  return (details, ← endpoints service poll)

/-- Manifests may refer to environment values, so these are handed over first. -/
def applyManifests (service : ServiceConfig) : Attempt Unit := do
  let values ← Attempt.call .environmentValues
  Attempt.call (.request (.setEnvironment values))
  Attempt.report "Applying k8s manifests"
  let _ ← Attempt.wrap (.applyManifests service.manifests)
    (Attempt.of (Flow.call (.request (.apply service.manifests))))

def packageOf : Option ServicePackage → Except Error ServicePackage
  | none => .error .missingPackageOutput
  | some package => .ok package

def run (service : ServiceConfig) (package : Option ServicePackage) (target : TargetResource)
    (poll : PollOptions) : Attempt DeployResult := do
  Attempt.ofExcept target.validate
  let package ← Attempt.ofExcept (packageOf package)
  Attempt.wrap (.containerDeploy service.name)
    (Attempt.of (Flow.call (.request (.push service.name package target.name))))
  applyManifests service
  let (details, endpoints) ← verify service poll
  record service endpoints
  return { package, target, details, endpoints }

end Deploy

end ClusterDeploy
