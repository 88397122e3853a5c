import ClusterDeploy.Cluster.PodSchema
/-!
# The shapes of deployments, services and ingresses

A version and a kind may be missing but not different.
-/
namespace ClusterDeploy.Schema

open Shape

def deploymentStrategy : Shape := record [
  optional "rollingUpdate" (record [
    optional "maxSurge" intOrText, optional "maxUnavailable" intOrText]),
  optional "type" text]

def deploymentSpec : Shape := record [
  optional "minReadySeconds" int32, optional "paused" flag,
  optional "progressDeadlineSeconds" int32, optional "replicas" int32,
  optional "revisionHistoryLimit" int32, required "selector" labelSelector,
  optional "strategy" deploymentStrategy, required "template" podTemplate]

def deploymentCondition : Shape := record [
  optional "lastTransitionTime" time, optional "lastUpdateTime" time, optional "message" text,
  optional "reason" text, required "status" text, required "type" text]

def deploymentStatus : Shape := record [
  optional "availableReplicas" int32, optional "collisionCount" int32,
  optional "conditions" (list deploymentCondition), optional "observedGeneration" int64,
  optional "readyReplicas" int32, optional "replicas" int32, optional "unavailableReplicas" int32,
  optional "updatedReplicas" int32]

def deployment : Shape := record [
  required "apiVersion" (exactly "apps/v1"), required "kind" (exactly "Deployment"),
  required "metadata" metadata, optional "spec" deploymentSpec, optional "status" deploymentStatus]

def condition : Shape := record [
  optional "lastTransitionTime" time, optional "message" text, optional "observedGeneration" int64,
  optional "reason" text, required "status" text, required "type" text]

def portStatus : Shape := record [
  optional "error" text, required "port" int32, required "protocol" text]

def loadBalancerStatus : Shape := record [
  optional "ingress" (list (record [
    optional "hostname" text, optional "ip" text, optional "ipMode" text,
    optional "ports" (list portStatus)]))]

def servicePort : Shape := record [
  optional "appProtocol" text, optional "name" text, optional "nodePort" int32,
  required "port" int32, optional "protocol" text, optional "targetPort" intOrText]

def serviceSpec : Shape := record [
  optional "allocateLoadBalancerNodePorts" flag, optional "clusterIP" text,
  optional "clusterIPs" texts, optional "externalIPs" texts, optional "externalName" text,
  optional "externalTrafficPolicy" text, optional "healthCheckNodePort" int32,
  optional "internalTrafficPolicy" text, optional "ipFamilies" texts,
  optional "ipFamilyPolicy" text, optional "loadBalancerClass" text,
  optional "loadBalancerIP" text, optional "loadBalancerSourceRanges" texts,
  optional "ports" (list servicePort), optional "publishNotReadyAddresses" flag,
  optional "selector" labels, optional "sessionAffinity" text,
  optional "sessionAffinityConfig" (record [
    optional "clientIP" (record [optional "timeoutSeconds" int32])]),
  optional "trafficDistribution" text, optional "type" text]

def service : Shape := record [
  required "apiVersion" (exactly "v1"), required "kind" (exactly "Service"),
  required "metadata" metadata, optional "spec" serviceSpec,
  optional "status" (record [
    optional "conditions" (list condition), optional "loadBalancer" loadBalancerStatus])]

def ingressBackend : Shape := record [
  optional "resource" typedReference,
  optional "service" (record [
    required "name" text,
    optional "port" (record [optional "name" text, optional "number" int32])])]

def ingressRule : Shape := record [
  optional "host" text,
  optional "http" (record [
    required "paths" (list (record [
      required "backend" ingressBackend, optional "path" text, required "pathType" text]))])]

def ingressSpec : Shape := record [
  optional "defaultBackend" ingressBackend, optional "ingressClassName" text,
  optional "rules" (list ingressRule),
  optional "tls" (list (record [optional "hosts" texts, optional "secretName" text]))]

def ingress : Shape := record [
  required "apiVersion" (exactly "networking.k8s.io/v1"), required "kind" (exactly "Ingress"),
  required "metadata" metadata, optional "spec" ingressSpec,
  optional "status" (record [optional "loadBalancer" (record [
    optional "ingress" (list (record [
      optional "hostname" text, optional "ip" text, optional "ports" (list portStatus)]))])])]

end ClusterDeploy.Schema
