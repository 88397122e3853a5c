import ClusterDeploy.Cluster.Resource
import ClusterDeploy.Url.Join
/-!
# Endpoints

The addresses under which a service is reached, read from a service or an ingress, and the line that
reports each of them. The URL of a line is everything before its first comma.
-/
namespace ClusterDeploy

inductive EndpointSource where
  | service
  | ingress
  deriving DecidableEq, Repr

def EndpointSource.label : EndpointSource → String
  | service => "Service"
  | ingress => "Ingress"

structure Endpoint where
  url : String
  source : EndpointSource
  /-- The type of the service behind it. -/
  type : String
  deriving DecidableEq, Repr

inductive Warning where
  /-- Addresses and ports of a service differ in number. -/
  | unpaired (clusterIps ports : Nat)
  /-- A load balancer has more entries than there are rules. -/
  | entriesWithoutRule (rules : Nat)
  /-- A kubeconfig was given explicitly. -/
  | explicitKubeconfig (path : String)
  deriving DecidableEq, Repr

def Warning.message : Warning → String
  | unpaired _ _ => "cluster IP and port counts differ, pairing by position"
  | entriesWithoutRule _ => "ingress has more load balancer entries than rules, using entry IPs"
  | explicitKubeconfig path => s!"Using KUBECONFIG @ {path}"

namespace Endpoint

def text (e : Endpoint) : String := s!"{e.url}, ({e.source.label}, Type: {e.type})"

def urlOf (line : String) : String := String.ofList (line.toList.takeWhile (· != ','))

/-- An IPv6 address is bracketed so that a port can follow; names and IPv4 addresses stay. -/
def hostOf (address : String) : String :=
  if (Url.ipv6Groups? address.toList).isSome then s!"[{address}]" else address

/-- The endpoints of a service: one for each address of its load balancer, or one for each pair of
a cluster address and a port at the same position. -/
def ofService (s : Service) : List Endpoint :=
  if s.type = Service.loadBalancer then
    (s.entryIps.filter fun ip => !ip.isEmpty).map fun ip =>
      ⟨s!"http://{hostOf ip}", .service, Service.loadBalancer⟩
  else if s.type = Service.clusterIp then
    (s.clusterIps.zip s.ports).map fun (ip, port) =>
      ⟨s!"http://{hostOf ip}:{port}", .service, Service.clusterIp⟩
  else []

def warningsOfService (s : Service) : List Warning :=
  if s.type = Service.clusterIp && s.clusterIps.length != s.ports.length then
    [.unpaired s.clusterIps.length s.ports.length]
  else []

/-- The host of each entry of an ingress: that of the rule at its position when the rule names one,
and the address of the entry otherwise. -/
def ingressHosts : (ruleHosts : List (Option String)) → (entryIps : List String) → List String
  | _, [] => []
  | [], ip :: ips => hostOf ip :: ingressHosts [] ips
  | host :: hosts, ip :: ips => host.getD (hostOf ip) :: ingressHosts hosts ips

def scheme (i : Ingress) : String := if i.tlsCount = 0 then "http" else "https"

def ofHost (scheme relativePath host : String) : Except Error Endpoint :=
  let base := s!"{scheme}://{host}"
  match Url.joinText base relativePath with
  | .ok url => .ok ⟨url, .ingress, Service.loadBalancer⟩
  | .error fault => .error (.endpointUrl base fault)

/-- The endpoints of an ingress, one for each entry with a host; the first base that is not a URL
fails them all. -/
def ofIngress (i : Ingress) (relativePath : String) : Except Error (List Endpoint) :=
  ((ingressHosts i.ruleHosts i.entryIps).filter fun host => !host.isEmpty).mapM
    (ofHost (scheme i) relativePath)

def warningsOfIngress (i : Ingress) : List Warning :=
  if i.ruleHosts.length < i.entryIps.length then [.entriesWithoutRule i.ruleHosts.length] else []

end Endpoint

end ClusterDeploy
