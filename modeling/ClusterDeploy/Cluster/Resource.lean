import ClusterDeploy.Cluster.Kind
import ClusterDeploy.Cluster.Schema
/-!
# Deployments, services and ingresses

What a deploy reads from the three kinds. An absent list reads as the empty one; where absence
matters, as for a rule without a host, it stays visible.
-/
namespace ClusterDeploy

structure Deployment where
  name : String
  desired : Option Int
  available : Option Int
  object : Json
  deriving Repr, Inhabited

/-- A service: its type, its cluster addresses and ports, and the addresses of the entries of its
load balancer, empty where an entry has none. -/
structure Service where
  name : String
  type : String
  clusterIps : List String
  ports : List Int
  entryIps : List String
  deriving DecidableEq, Repr, Inhabited

/-- An ingress: how many TLS settings it has, the hosts of its rules, and the addresses of the
entries of its load balancer, empty where an entry has none. -/
structure Ingress where
  name : String
  tlsCount : Nat
  ruleHosts : List (Option String)
  entryIps : List String
  deriving DecidableEq, Repr, Inhabited

/-- The member at the end of a path, null where the path breaks off. -/
def Json.at' (j : Json) (path : List String) : Json := path.foldl Json.member j

def Json.textAt (j : Json) (path : List String) : String := (j.at' path).str?.getD ""

def Json.listAt (j : Json) (path : List String) : List Json := (j.at' path).arr?.getD []

namespace Deployment

def ofJson? (j : Json) : Option Deployment :=
  (Schema.deployment.fit j).map fun object =>
    { name := object.textAt ["metadata", "name"]
      desired := (object.at' ["spec", "replicas"]).int?
      available := (object.at' ["status", "availableReplicas"]).int?
      object }

/-- A deployment is rolled out when as many replicas are available as are desired; an absent count
is zero. -/
def isRolledOut (d : Deployment) : Bool := d.available.getD 0 == d.desired.getD 0

end Deployment

def loadBalancerIps (object : Json) : List String :=
  (object.listAt ["status", "loadBalancer", "ingress"]).map fun entry => entry.textAt ["ip"]

namespace Service

def loadBalancer : String := "LoadBalancer"

def clusterIp : String := "ClusterIP"

def ofJson? (j : Json) : Option Service :=
  (Schema.service.fit j).map fun object =>
    { name := object.textAt ["metadata", "name"]
      type := object.textAt ["spec", "type"]
      clusterIps := (object.listAt ["spec", "clusterIPs"]).map fun ip => ip.str?.getD ""
      ports := (object.listAt ["spec", "ports"]).map fun p => (p.member "port").int?.getD 0
      entryIps := loadBalancerIps object }

/-- A load balancer needs an assigned address; any other service is ready as soon as it exists. -/
def isReady (s : Service) : Bool :=
  s.type != loadBalancer || s.entryIps.any fun ip => !ip.isEmpty

end Service

namespace Ingress

def ofJson? (j : Json) : Option Ingress :=
  (Schema.ingress.fit j).map fun object =>
    { name := object.textAt ["metadata", "name"]
      tlsCount := (object.listAt ["spec", "tls"]).length
      ruleHosts := (object.listAt ["spec", "rules"]).map fun rule => (rule.member "host").str?
      entryIps := loadBalancerIps object }

def isReady (i : Ingress) : Bool := i.entryIps.any fun ip => !ip.isEmpty

end Ingress

end ClusterDeploy
