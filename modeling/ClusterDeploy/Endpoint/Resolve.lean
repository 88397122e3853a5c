import ClusterDeploy.Waiting
/-!
# Finding the endpoints of a service

First the service is waited for, then its ingress. One that never appears has no endpoints; any
other failure ends the search.
-/
namespace ClusterDeploy.Endpoint

def awaitService (filter : String) (poll : PollOptions) : Attempt (List Endpoint) := do
  let s ← (Watch.service filter).wait poll
  Attempt.warnAll (warningsOfService s)
  return ofService s

def awaitIngress (filter relativePath : String) (poll : PollOptions) : Attempt (List Endpoint) := do
  let i ← (Watch.ingress filter).wait poll
  Attempt.warnAll (warningsOfIngress i)
  Attempt.ofExcept (ofIngress i relativePath)

def resolve (serviceFilter ingressFilter relativePath : String) (poll : PollOptions) :
    Attempt (List Endpoint) := do
  let fromService ←
    Attempt.wrap .serviceEndpoints (Attempt.unlessNotFound (awaitService serviceFilter poll))
  let fromIngress ←
    Attempt.wrap .ingressEndpoints
      (Attempt.unlessNotFound (awaitIngress ingressFilter relativePath poll))
  return fromService.getD [] ++ fromIngress.getD []

end ClusterDeploy.Endpoint
