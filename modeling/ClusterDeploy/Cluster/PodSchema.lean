import ClusterDeploy.Cluster.Shape
/-!
# The shape of pods

Everything a deployment can say about the pods it starts: their metadata, their containers with the
checks on them, where they may run, and the volumes they use.
-/
namespace ClusterDeploy.Schema

open Shape

def texts : Shape := list text

def labels : Shape := table text

def ownerReference : Shape := record [
  required "apiVersion" text, optional "blockOwnerDeletion" flag, optional "controller" flag,
  required "kind" text, required "name" text, required "uid" text]

def managedFields : Shape := record [
  optional "apiVersion" text, optional "fieldsType" text, optional "fieldsV1" any,
  optional "manager" text, optional "operation" text, optional "subresource" text,
  optional "time" time]

def metadata : Shape := record [
  optional "annotations" labels, optional "creationTimestamp" time,
  optional "deletionGracePeriodSeconds" int64, optional "deletionTimestamp" time,
  optional "finalizers" texts, optional "generateName" text, optional "generation" int64,
  optional "labels" labels, optional "managedFields" (list managedFields), optional "name" text,
  optional "namespace" text, optional "ownerReferences" (list ownerReference),
  optional "resourceVersion" text, optional "selfLink" text, optional "uid" text]

def labelSelector : Shape := record [
  optional "matchExpressions" (list (record [
    required "key" text, required "operator" text, optional "values" texts])),
  optional "matchLabels" labels]

def typedReference : Shape := record [
  optional "apiGroup" text, required "kind" text, required "name" text]

/-! ## Containers -/

def keySelector : Shape := record [
  required "key" text, optional "name" text, optional "optional" flag]

def objectSource : Shape := record [optional "name" text, optional "optional" flag]

def objectName : Shape := record [optional "name" text]

def fieldSelector : Shape := record [optional "apiVersion" text, required "fieldPath" text]

def resourceSelector : Shape := record [
  optional "containerName" text, optional "divisor" text, required "resource" text]

def environmentVariable : Shape := record [
  required "name" text, optional "value" text,
  optional "valueFrom" (record [
    optional "configMapKeyRef" keySelector, optional "fieldRef" fieldSelector,
    optional "resourceFieldRef" resourceSelector, optional "secretKeyRef" keySelector])]

def containerPort : Shape := record [
  required "containerPort" int32, optional "hostIP" text, optional "hostPort" int32,
  optional "name" text, optional "protocol" text]

def commandAction : Shape := record [optional "command" texts]

def httpAction : Shape := record [
  optional "host" text,
  optional "httpHeaders" (list (record [required "name" text, required "value" text])),
  optional "path" text, required "port" intOrText, optional "scheme" text]

def socketAction : Shape := record [optional "host" text, required "port" intOrText]

def probe : Shape := record [
  optional "exec" commandAction, optional "failureThreshold" int32,
  optional "grpc" (record [required "port" int32, optional "service" text]),
  optional "httpGet" httpAction, optional "initialDelaySeconds" int32,
  optional "periodSeconds" int32, optional "successThreshold" int32,
  optional "tcpSocket" socketAction, optional "terminationGracePeriodSeconds" int64,
  optional "timeoutSeconds" int32]

def lifecycleHandler : Shape := record [
  optional "exec" commandAction, optional "httpGet" httpAction,
  optional "sleep" (record [required "seconds" int64]), optional "tcpSocket" socketAction]

def profile : Shape := record [optional "localhostProfile" text, required "type" text]

def accessLabels : Shape := record [
  optional "level" text, optional "role" text, optional "type" text, optional "user" text]

def windowsOptions : Shape := record [
  optional "gmsaCredentialSpec" text, optional "gmsaCredentialSpecName" text,
  optional "hostProcess" flag, optional "runAsUserName" text]

def securityContext : Shape := record [
  optional "allowPrivilegeEscalation" flag, optional "appArmorProfile" profile,
  optional "capabilities" (record [optional "add" texts, optional "drop" texts]),
  optional "privileged" flag, optional "procMount" text, optional "readOnlyRootFilesystem" flag,
  optional "runAsGroup" int64, optional "runAsNonRoot" flag, optional "runAsUser" int64,
  optional "seLinuxOptions" accessLabels, optional "seccompProfile" profile,
  optional "windowsOptions" windowsOptions]

def quantities : List (String × Bool × Shape) :=
  [optional "limits" labels, optional "requests" labels]

def containerFields : List (String × Bool × Shape) := [
  optional "args" texts, optional "command" texts, optional "env" (list environmentVariable),
  optional "envFrom" (list (record [
    optional "configMapRef" objectSource, optional "prefix" text,
    optional "secretRef" objectSource])),
  optional "image" text, optional "imagePullPolicy" text,
  optional "lifecycle" (record [
    optional "postStart" lifecycleHandler, optional "preStop" lifecycleHandler]),
  optional "livenessProbe" probe, required "name" text, optional "ports" (list containerPort),
  optional "readinessProbe" probe,
  optional "resizePolicy" (list (record [
    required "resourceName" text, required "restartPolicy" text])),
  optional "resources" (record (
    optional "claims" (list (record [required "name" text])) :: quantities)),
  optional "restartPolicy" text, optional "securityContext" securityContext,
  optional "startupProbe" probe, optional "stdin" flag, optional "stdinOnce" flag,
  optional "terminationMessagePath" text, optional "terminationMessagePolicy" text,
  optional "tty" flag,
  optional "volumeDevices" (list (record [required "devicePath" text, required "name" text])),
  optional "volumeMounts" (list (record [
    required "mountPath" text, optional "mountPropagation" text, required "name" text,
    optional "readOnly" flag, optional "recursiveReadOnly" text, optional "subPath" text,
    optional "subPathExpr" text])),
  optional "workingDir" text]

def container : Shape := record containerFields

def ephemeralContainer : Shape := record (containerFields ++ [optional "targetContainerName" text])

/-! ## Volumes -/

def keyPaths : Shape := list (record [
  required "key" text, optional "mode" int32, required "path" text])

def downwardFiles : Shape := list (record [
  optional "fieldRef" fieldSelector, optional "mode" int32, required "path" text,
  optional "resourceFieldRef" resourceSelector])

def projection : Shape := record [
  optional "clusterTrustBundle" (record [
    optional "labelSelector" labelSelector, optional "name" text, optional "optional" flag,
    required "path" text, optional "signerName" text]),
  optional "configMap" (record [
    optional "items" keyPaths, optional "name" text, optional "optional" flag]),
  optional "downwardAPI" (record [optional "items" downwardFiles]),
  optional "secret" (record [
    optional "items" keyPaths, optional "name" text, optional "optional" flag]),
  optional "serviceAccountToken" (record [
    optional "audience" text, optional "expirationSeconds" int64, required "path" text])]

def claimSpec : Shape := record [
  optional "accessModes" texts, optional "dataSource" typedReference,
  optional "dataSourceRef" (record [
    optional "apiGroup" text, required "kind" text, required "name" text,
    optional "namespace" text]),
  optional "resources" (record quantities), optional "selector" labelSelector,
  optional "storageClassName" text, optional "volumeAttributesClassName" text,
  optional "volumeMode" text, optional "volumeName" text]

/-- Volumes that live in the cluster or on its nodes. -/
def innerSources : List (String × Bool × Shape) := [
  optional "configMap" (record [
    optional "defaultMode" int32, optional "items" keyPaths, optional "name" text,
    optional "optional" flag]),
  optional "csi" (record [
    required "driver" text, optional "fsType" text, optional "nodePublishSecretRef" objectName,
    optional "readOnly" flag, optional "volumeAttributes" labels]),
  optional "downwardAPI" (record [optional "defaultMode" int32, optional "items" downwardFiles]),
  optional "emptyDir" (record [optional "medium" text, optional "sizeLimit" text]),
  optional "ephemeral" (record [
    optional "volumeClaimTemplate" (record [
      optional "metadata" metadata, required "spec" claimSpec])]),
  optional "gitRepo" (record [
    optional "directory" text, required "repository" text, optional "revision" text]),
  optional "hostPath" (record [required "path" text, optional "type" text]),
  optional "persistentVolumeClaim" (record [required "claimName" text, optional "readOnly" flag]),
  optional "projected" (record [
    optional "defaultMode" int32, optional "sources" (list projection)]),
  optional "secret" (record [
    optional "defaultMode" int32, optional "items" keyPaths, optional "optional" flag,
    optional "secretName" text])]

/-- Volumes of storage systems outside the cluster. -/
def outerSources : List (String × Bool × Shape) := [
  optional "awsElasticBlockStore" (record [
    optional "fsType" text, optional "partition" int32, optional "readOnly" flag,
    required "volumeID" text]),
  optional "azureDisk" (record [
    optional "cachingMode" text, required "diskName" text, required "diskURI" text,
    optional "fsType" text, optional "kind" text, optional "readOnly" flag]),
  optional "azureFile" (record [
    optional "readOnly" flag, required "secretName" text, required "shareName" text]),
  optional "cephfs" (record [
    required "monitors" texts, optional "path" text, optional "readOnly" flag,
    optional "secretFile" text, optional "secretRef" objectName, optional "user" text]),
  optional "cinder" (record [
    optional "fsType" text, optional "readOnly" flag, optional "secretRef" objectName,
    required "volumeID" text]),
  optional "fc" (record [
    optional "fsType" text, optional "lun" int32, optional "readOnly" flag,
    optional "targetWWNs" texts, optional "wwids" texts]),
  optional "flexVolume" (record [
    required "driver" text, optional "fsType" text, optional "options" labels,
    optional "readOnly" flag, optional "secretRef" objectName]),
  optional "flocker" (record [optional "datasetName" text, optional "datasetUUID" text]),
  optional "gcePersistentDisk" (record [
    optional "fsType" text, optional "partition" int32, required "pdName" text,
    optional "readOnly" flag]),
  optional "glusterfs" (record [
    required "endpoints" text, required "path" text, optional "readOnly" flag]),
  optional "iscsi" (record [
    optional "chapAuthDiscovery" flag, optional "chapAuthSession" flag, optional "fsType" text,
    optional "initiatorName" text, required "iqn" text, optional "iscsiInterface" text,
    required "lun" int32, optional "portals" texts, optional "readOnly" flag,
    optional "secretRef" objectName, required "targetPortal" text]),
  optional "nfs" (record [
    required "path" text, optional "readOnly" flag, required "server" text]),
  optional "photonPersistentDisk" (record [optional "fsType" text, required "pdID" text]),
  optional "portworxVolume" (record [
    optional "fsType" text, optional "readOnly" flag, required "volumeID" text]),
  optional "quobyte" (record [
    optional "group" text, optional "readOnly" flag, required "registry" text,
    optional "tenant" text, optional "user" text, required "volume" text]),
  optional "rbd" (record [
    optional "fsType" text, required "image" text, optional "keyring" text,
    required "monitors" texts, optional "pool" text, optional "readOnly" flag,
    optional "secretRef" objectName, optional "user" text]),
  optional "scaleIO" (record [
    optional "fsType" text, required "gateway" text, optional "protectionDomain" text,
    optional "readOnly" flag, required "secretRef" objectName, optional "sslEnabled" flag,
    optional "storageMode" text, optional "storagePool" text, required "system" text,
    optional "volumeName" text]),
  optional "storageos" (record [
    optional "fsType" text, optional "readOnly" flag, optional "secretRef" objectName,
    optional "volumeName" text, optional "volumeNamespace" text]),
  optional "vsphereVolume" (record [
    optional "fsType" text, optional "storagePolicyID" text, optional "storagePolicyName" text,
    required "volumePath" text])]

def volume : Shape := record (required "name" text :: innerSources ++ outerSources)

/-! ## Placement -/

def requirements : Shape := list (record [
  required "key" text, required "operator" text, optional "values" texts])

def nodeTerm : Shape := record [
  optional "matchExpressions" requirements, optional "matchFields" requirements]

def preferredRule : String := "preferredDuringSchedulingIgnoredDuringExecution"

def requiredRule : String := "requiredDuringSchedulingIgnoredDuringExecution"

def podTerm : Shape := record [
  optional "labelSelector" labelSelector, optional "matchLabelKeys" texts,
  optional "mismatchLabelKeys" texts, optional "namespaceSelector" labelSelector,
  optional "namespaces" texts, required "topologyKey" text]

def podRules : Shape := record [
  optional preferredRule (list (record [
    required "podAffinityTerm" podTerm, required "weight" int32])),
  optional requiredRule (list podTerm)]

def affinity : Shape := record [
  optional "nodeAffinity" (record [
    optional preferredRule (list (record [
      required "preference" nodeTerm, required "weight" int32])),
    optional requiredRule (record [required "nodeSelectorTerms" (list nodeTerm)])]),
  optional "podAffinity" podRules, optional "podAntiAffinity" podRules]

def spreadConstraint : Shape := record [
  optional "labelSelector" labelSelector, optional "matchLabelKeys" texts,
  required "maxSkew" int32, optional "minDomains" int32, optional "nodeAffinityPolicy" text,
  optional "nodeTaintsPolicy" text, required "topologyKey" text,
  required "whenUnsatisfiable" text]

def toleration : Shape := record [
  optional "effect" text, optional "key" text, optional "operator" text,
  optional "tolerationSeconds" int64, optional "value" text]

/-! ## Pods -/

def podSecurityContext : Shape := record [
  optional "appArmorProfile" profile, optional "fsGroup" int64,
  optional "fsGroupChangePolicy" text, optional "runAsGroup" int64, optional "runAsNonRoot" flag,
  optional "runAsUser" int64, optional "seLinuxOptions" accessLabels,
  optional "seccompProfile" profile, optional "supplementalGroups" (list int64),
  optional "sysctls" (list (record [required "name" text, required "value" text])),
  optional "windowsOptions" windowsOptions]

def dnsConfig : Shape := record [
  optional "nameservers" texts,
  optional "options" (list (record [optional "name" text, optional "value" text])),
  optional "searches" texts]

def podSpec : Shape := record [
  optional "activeDeadlineSeconds" int64, optional "affinity" affinity,
  optional "automountServiceAccountToken" flag, required "containers" (list container),
  optional "dnsConfig" dnsConfig, optional "dnsPolicy" text, optional "enableServiceLinks" flag,
  optional "ephemeralContainers" (list ephemeralContainer),
  optional "hostAliases" (list (record [optional "hostnames" texts, required "ip" text])),
  optional "hostIPC" flag, optional "hostNetwork" flag, optional "hostPID" flag,
  optional "hostUsers" flag, optional "hostname" text,
  optional "imagePullSecrets" (list objectName), optional "initContainers" (list container),
  optional "nodeName" text, optional "nodeSelector" labels,
  optional "os" (record [required "name" text]), optional "overhead" labels,
  optional "preemptionPolicy" text, optional "priority" int32,
  optional "priorityClassName" text,
  optional "readinessGates" (list (record [required "conditionType" text])),
  optional "resourceClaims" (list (record [
    required "name" text,
    optional "source" (record [
      optional "resourceClaimName" text, optional "resourceClaimTemplateName" text])])),
  optional "restartPolicy" text, optional "runtimeClassName" text, optional "schedulerName" text,
  optional "schedulingGates" (list (record [required "name" text])),
  optional "securityContext" podSecurityContext, optional "serviceAccount" text,
  optional "serviceAccountName" text, optional "setHostnameAsFQDN" flag,
  optional "shareProcessNamespace" flag, optional "subdomain" text,
  optional "terminationGracePeriodSeconds" int64, optional "tolerations" (list toleration),
  optional "topologySpreadConstraints" (list spreadConstraint),
  optional "volumes" (list volume)]

def podTemplate : Shape := record [optional "metadata" metadata, optional "spec" podSpec]

end ClusterDeploy.Schema
