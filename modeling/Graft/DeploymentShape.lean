import Graft.Json.Shape
import Graft.ObjectMeta

namespace Graft.DeploymentShape

open Json (Reader Record Shape)
open Json.Shape

/-- A record without fields that are always written. -/
def record (fields : List (String × Shape)) : Shape := .record (fields.map fun f => (f.1, false, f.2))

def texts : Shape := .list text

/-- An amount of a resource is a text. -/
def amounts : Shape := .map text

def time : Shape := .atom (fun d => (Time.Timestamp.read d).map Time.Timestamp.toJson) (.str "")

def objectMeta : Shape := .atom (fun d => (ObjectMeta.read d).map ObjectMeta.toJson) (.obj [])

/-- A number of 32 bits or a text. -/
def intOrText : Shape := .atom (fun
  | .str value => .ok (.str value)
  | d => (Reader.int (-0x80000000) 0x7fffffff d).map .ofInt) (.ofInt 0)

def reference : Shape := record [("name", text)]

def selector : Shape := record [
  ("matchExpressions", .list (record [("key", text), ("operator", text), ("values", texts)])),
  ("matchLabels", .map text)]

def nodeTerm : Shape :=
  let requirements := .list (record [("key", text), ("operator", text), ("values", texts)])
  record [("matchExpressions", requirements), ("matchFields", requirements)]

def nodeAffinity : Shape := record [
  ("preferredDuringSchedulingIgnoredDuringExecution", .list (record [("preference", nodeTerm), ("weight", int32)])),
  ("requiredDuringSchedulingIgnoredDuringExecution", record [("nodeSelectorTerms", .list nodeTerm)])]

def podAffinityTerm : Shape := record [
  ("labelSelector", selector), ("matchLabelKeys", texts), ("mismatchLabelKeys", texts),
  ("namespaceSelector", selector), ("namespaces", texts), ("topologyKey", text)]

def podAffinity : Shape := record [
  ("preferredDuringSchedulingIgnoredDuringExecution",
    .list (record [("podAffinityTerm", podAffinityTerm), ("weight", int32)])),
  ("requiredDuringSchedulingIgnoredDuringExecution", .list podAffinityTerm)]

def affinity : Shape := record [
  ("nodeAffinity", nodeAffinity), ("podAffinity", podAffinity), ("podAntiAffinity", podAffinity)]

def profile : Shape := record [("localhostProfile", text), ("type", text)]

def seLinuxOptions : Shape := record [("level", text), ("role", text), ("type", text), ("user", text)]

def windowsOptions : Shape := record [
  ("gmsaCredentialSpec", text), ("gmsaCredentialSpecName", text), ("hostProcess", flag), ("runAsUserName", text)]

def podSecurity : Shape := record [
  ("appArmorProfile", profile), ("fsGroup", int64), ("fsGroupChangePolicy", text), ("runAsGroup", int64),
  ("runAsNonRoot", flag), ("runAsUser", int64), ("seLinuxChangePolicy", text), ("seLinuxOptions", seLinuxOptions),
  ("seccompProfile", profile), ("supplementalGroups", .list int64), ("supplementalGroupsPolicy", text),
  ("sysctls", .list (record [("name", text), ("value", text)])), ("windowsOptions", windowsOptions)]

def containerSecurity : Shape := record [
  ("allowPrivilegeEscalation", flag), ("appArmorProfile", profile),
  ("capabilities", record [("add", texts), ("drop", texts)]), ("privileged", flag), ("procMount", text),
  ("readOnlyRootFilesystem", flag), ("runAsGroup", int64), ("runAsNonRoot", flag), ("runAsUser", int64),
  ("seLinuxOptions", seLinuxOptions), ("seccompProfile", profile), ("windowsOptions", windowsOptions)]

def fieldRef : Shape := record [("apiVersion", text), ("fieldPath", text)]

def resourceFieldRef : Shape := record [("containerName", text), ("divisor", text), ("resource", text)]

def keyRef : Shape := record [("key", text), ("name", text), ("optional", flag)]

def sourceRef : Shape := record [("name", text), ("optional", flag)]

def envVar : Shape := record [
  ("name", text), ("value", text),
  ("valueFrom", record [("configMapKeyRef", keyRef), ("fieldRef", fieldRef), ("resourceFieldRef", resourceFieldRef),
    ("secretKeyRef", keyRef)])]

def exec : Shape := record [("command", texts)]

def httpGet : Shape := record [
  ("host", text), ("httpHeaders", .list (record [("name", text), ("value", text)])), ("path", text),
  ("port", intOrText), ("scheme", text)]

def tcpSocket : Shape := record [("host", text), ("port", intOrText)]

def hook : Shape := record [
  ("exec", exec), ("httpGet", httpGet), ("sleep", record [("seconds", int64)]), ("tcpSocket", tcpSocket)]

def probe : Shape := record [
  ("exec", exec), ("failureThreshold", int32), ("grpc", record [("port", int32), ("service", text)]),
  ("httpGet", httpGet), ("initialDelaySeconds", int32), ("periodSeconds", int32), ("successThreshold", int32),
  ("tcpSocket", tcpSocket), ("terminationGracePeriodSeconds", int64), ("timeoutSeconds", int32)]

def resources : Shape := record [
  ("claims", .list (record [("name", text), ("request", text)])), ("limits", amounts), ("requests", amounts)]

def containerFields : List (String × Shape) := [
  ("args", texts), ("command", texts), ("env", .list envVar),
  ("envFrom", .list (record [("configMapRef", sourceRef), ("prefix", text), ("secretRef", sourceRef)])),
  ("image", text), ("imagePullPolicy", text), ("lifecycle", record [("postStart", hook), ("preStop", hook)]),
  ("livenessProbe", probe), ("name", text),
  ("ports", .list (record [("containerPort", int32), ("hostIP", text), ("hostPort", int32), ("name", text),
    ("protocol", text)])),
  ("readinessProbe", probe),
  ("resizePolicy", .list (record [("resourceName", text), ("restartPolicy", text)])),
  ("resources", resources), ("restartPolicy", text), ("securityContext", containerSecurity), ("startupProbe", probe),
  ("stdin", flag), ("stdinOnce", flag), ("terminationMessagePath", text), ("terminationMessagePolicy", text),
  ("tty", flag), ("volumeDevices", .list (record [("devicePath", text), ("name", text)])),
  ("volumeMounts", .list (record [("mountPath", text), ("mountPropagation", text), ("name", text), ("readOnly", flag),
    ("recursiveReadOnly", text), ("subPath", text), ("subPathExpr", text)])),
  ("workingDir", text)]

def container : Shape := record containerFields

def ephemeralContainer : Shape := record (containerFields ++ [("targetContainerName", text)])

/-- Entries of a volume that come from a map. -/
def keyPaths : Shape := .list (record [("key", text), ("mode", int32), ("path", text)])

def downwardFiles : Shape := .list (record [
  ("fieldRef", fieldRef), ("mode", int32), ("path", text), ("resourceFieldRef", resourceFieldRef)])

def claimTemplate : Shape := record [
  ("metadata", objectMeta),
  ("spec", record [
    ("accessModes", texts), ("dataSource", record [("apiGroup", text), ("kind", text), ("name", text)]),
    ("dataSourceRef", record [("apiGroup", text), ("kind", text), ("name", text), ("namespace", text)]),
    ("resources", record [("limits", amounts), ("requests", amounts)]), ("selector", selector),
    ("storageClassName", text), ("volumeAttributesClassName", text), ("volumeMode", text), ("volumeName", text)])]

def projected : Shape := record [
  ("defaultMode", int32),
  ("sources", .list (record [
    ("clusterTrustBundle", record [("labelSelector", selector), ("name", text), ("optional", flag), ("path", text),
      ("signerName", text)]),
    ("configMap", record [("items", keyPaths), ("name", text), ("optional", flag)]),
    ("downwardAPI", record [("items", downwardFiles)]),
    ("secret", record [("items", keyPaths), ("name", text), ("optional", flag)]),
    ("serviceAccountToken", record [("audience", text), ("expirationSeconds", int64), ("path", text)])]))]

/-- Volumes of the cluster itself and of files. -/
def localVolumeFields : List (String × Shape) := [
  ("configMap", record [("defaultMode", int32), ("items", keyPaths), ("name", text), ("optional", flag)]),
  ("csi", record [("driver", text), ("fsType", text), ("nodePublishSecretRef", reference), ("readOnly", flag),
    ("volumeAttributes", .map text)]),
  ("downwardAPI", record [("defaultMode", int32), ("items", downwardFiles)]),
  ("emptyDir", record [("medium", text), ("sizeLimit", text)]),
  ("ephemeral", record [("volumeClaimTemplate", claimTemplate)]),
  ("gitRepo", record [("directory", text), ("repository", text), ("revision", text)]),
  ("hostPath", record [("path", text), ("type", text)]),
  ("image", record [("pullPolicy", text), ("reference", text)]),
  ("name", text),
  ("persistentVolumeClaim", record [("claimName", text), ("readOnly", flag)]),
  ("projected", projected),
  ("secret", record [("defaultMode", int32), ("items", keyPaths), ("optional", flag), ("secretName", text)])]

/-- Volumes of storage systems. -/
def storageVolumeFields : List (String × Shape) := [
  ("awsElasticBlockStore", record [("fsType", text), ("partition", int32), ("readOnly", flag), ("volumeID", text)]),
  ("azureDisk", record [("cachingMode", text), ("diskName", text), ("diskURI", text), ("fsType", text),
    ("kind", text), ("readOnly", flag)]),
  ("azureFile", record [("readOnly", flag), ("secretName", text), ("shareName", text)]),
  ("cephfs", record [("monitors", texts), ("path", text), ("readOnly", flag), ("secretFile", text),
    ("secretRef", reference), ("user", text)]),
  ("cinder", record [("fsType", text), ("readOnly", flag), ("secretRef", reference), ("volumeID", text)]),
  ("fc", record [("fsType", text), ("lun", int32), ("readOnly", flag), ("targetWWNs", texts), ("wwids", texts)]),
  ("flexVolume", record [("driver", text), ("fsType", text), ("options", .map text), ("readOnly", flag),
    ("secretRef", reference)]),
  ("flocker", record [("datasetName", text), ("datasetUUID", text)]),
  ("gcePersistentDisk", record [("fsType", text), ("partition", int32), ("pdName", text), ("readOnly", flag)]),
  ("glusterfs", record [("endpoints", text), ("path", text), ("readOnly", flag)]),
  ("iscsi", record [("chapAuthDiscovery", flag), ("chapAuthSession", flag), ("fsType", text),
    ("initiatorName", text), ("iqn", text), ("iscsiInterface", text), ("lun", int32), ("portals", texts),
    ("readOnly", flag), ("secretRef", reference), ("targetPortal", text)]),
  ("nfs", record [("path", text), ("readOnly", flag), ("server", text)]),
  ("photonPersistentDisk", record [("fsType", text), ("pdID", text)]),
  ("portworxVolume", record [("fsType", text), ("readOnly", flag), ("volumeID", text)]),
  ("quobyte", record [("group", text), ("readOnly", flag), ("registry", text), ("tenant", text), ("user", text),
    ("volume", text)]),
  ("rbd", record [("fsType", text), ("image", text), ("keyring", text), ("monitors", texts), ("pool", text),
    ("readOnly", flag), ("secretRef", reference), ("user", text)]),
  ("scaleIO", record [("fsType", text), ("gateway", text), ("protectionDomain", text), ("readOnly", flag),
    ("secretRef", reference), ("sslEnabled", flag), ("storageMode", text), ("storagePool", text), ("system", text),
    ("volumeName", text)]),
  ("storageos", record [("fsType", text), ("readOnly", flag), ("secretRef", reference), ("volumeName", text),
    ("volumeNamespace", text)]),
  ("vsphereVolume", record [("fsType", text), ("storagePolicyID", text), ("storagePolicyName", text),
    ("volumePath", text)])]

def volume : Shape := record (localVolumeFields ++ storageVolumeFields)

def podSpec : Shape := record [
  ("activeDeadlineSeconds", int64), ("affinity", affinity), ("automountServiceAccountToken", flag),
  ("containers", .list container),
  ("dnsConfig", record [("nameservers", texts), ("options", .list (record [("name", text), ("value", text)])),
    ("searches", texts)]),
  ("dnsPolicy", text), ("enableServiceLinks", flag), ("ephemeralContainers", .list ephemeralContainer),
  ("hostAliases", .list (record [("hostnames", texts), ("ip", text)])), ("hostIPC", flag), ("hostNetwork", flag),
  ("hostPID", flag), ("hostUsers", flag), ("hostname", text), ("imagePullSecrets", .list reference),
  ("initContainers", .list container), ("nodeName", text), ("nodeSelector", .map text), ("os", reference),
  ("overhead", amounts), ("preemptionPolicy", text), ("priority", int32), ("priorityClassName", text),
  ("readinessGates", .list (record [("conditionType", text)])),
  ("resourceClaims", .list (record [("name", text), ("resourceClaimName", text),
    ("resourceClaimTemplateName", text)])),
  ("resources", resources), ("restartPolicy", text), ("runtimeClassName", text), ("schedulerName", text),
  ("schedulingGates", .list reference), ("securityContext", podSecurity), ("serviceAccount", text),
  ("serviceAccountName", text), ("setHostnameAsFQDN", flag), ("shareProcessNamespace", flag), ("subdomain", text),
  ("terminationGracePeriodSeconds", int64),
  ("tolerations", .list (record [("effect", text), ("key", text), ("operator", text), ("tolerationSeconds", int64),
    ("value", text)])),
  ("topologySpreadConstraints", .list (record [("labelSelector", selector), ("matchLabelKeys", texts),
    ("maxSkew", int32), ("minDomains", int32), ("nodeAffinityPolicy", text), ("nodeTaintsPolicy", text),
    ("topologyKey", text), ("whenUnsatisfiable", text)])),
  ("volumes", .list volume)]

def spec : Shape := record [
  ("minReadySeconds", int32), ("paused", flag), ("progressDeadlineSeconds", int32), ("replicas", int32),
  ("revisionHistoryLimit", int32), ("selector", selector),
  ("strategy", record [("rollingUpdate", record [("maxSurge", intOrText), ("maxUnavailable", intOrText)]),
    ("type", text)]),
  ("template", record [("metadata", objectMeta), ("spec", podSpec)])]

def status : Shape := record [
  ("availableReplicas", int32), ("collisionCount", int32),
  ("conditions", .list (record [("lastTransitionTime", time), ("lastUpdateTime", time), ("message", text),
    ("reason", text), ("status", text), ("type", text)])),
  ("observedGeneration", int64), ("readyReplicas", int32), ("replicas", int32), ("unavailableReplicas", int32),
  ("updatedReplicas", int32)]

/-- Accepts a whole Deployment. An answer of the server that breaks one of its fields is no Deployment, and fields that
are not known are passed over. -/
def accept : Reader Unit := fun d => do
  let _ ← Record.readLenient [("apiVersion", Reader.constant "apps/v1"), ("kind", Reader.constant "Deployment"),
    ("metadata", Reader.check (Reader.optional ObjectMeta.read)),
    ("spec", Reader.check (Reader.optional spec.read)),
    ("status", Reader.check (Reader.optional status.read))] d

end Graft.DeploymentShape
