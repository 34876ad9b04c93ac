import Rollback.Api.Metadata

/-! The shape of a pod template: everything that a pod may say of its containers, its volumes and the
place where it runs. -/
namespace Rollback.Api.PodTemplate

open Schema

def localReference : Schema := .record (may .text ["name"])

/-- Something that is only named. -/
def named : Schema := .record (must .text ["name"])

def labelSelectorSchema : Schema :=
  .record [("matchExpressions", .optional, .list (.record
      (must .text ["key", "operator"] ++ may (.list .text) ["values"]))),
    ("matchLabels", .optional, .table .text)]

def keyReference : Schema :=
  .record (must .text ["key"] ++ may .text ["name"] ++ may .bool ["optional"])

/-- A set of values. -/
def optionalReference : Schema := .record (may .text ["name"] ++ may .bool ["optional"])

def fieldReference : Schema := .record (may .text ["apiVersion"] ++ must .text ["fieldPath"])

def resourceReference : Schema :=
  .record (may .text ["containerName", "divisor"] ++ must .text ["resource"])

def environment : List Field :=
  must .text ["name"] ++ may .text ["value"] ++ [("valueFrom", .optional, .record
    (may keyReference ["configMapKeyRef", "secretKeyRef"]
      ++ [("fieldRef", .optional, fieldReference),
        ("resourceFieldRef", .optional, resourceReference)]))]

def environmentSource : List Field :=
  may .text ["prefix"] ++ may optionalReference ["configMapRef", "secretRef"]

def execAction : Schema := .record (may (.list .text) ["command"])

def httpAction : Schema :=
  .record (may .text ["host", "path", "scheme"] ++ must .integerOrText ["port"]
    ++ may (.list (.record (must .text ["name", "value"]))) ["httpHeaders"])

def socketAction : Schema := .record (may .text ["host"] ++ must .integerOrText ["port"])

def hook : Schema :=
  .record [("exec", .optional, execAction), ("httpGet", .optional, httpAction),
    ("sleep", .optional, .record (must int64 ["seconds"])), ("tcpSocket", .optional, socketAction)]

def probe : Schema :=
  .record ([("exec", .optional, execAction), ("httpGet", .optional, httpAction),
      ("grpc", .optional, .record (must int32 ["port"] ++ may .text ["service"])),
      ("tcpSocket", .optional, socketAction)]
    ++ may int32 ["failureThreshold", "initialDelaySeconds", "periodSeconds", "successThreshold",
      "timeoutSeconds"]
    ++ may int64 ["terminationGracePeriodSeconds"])

def labelOptions : Schema := .record (may .text ["level", "role", "type", "user"])

def callProfile : Schema := .record (may .text ["localhostProfile"] ++ must .text ["type"])

def hostOptions : Schema :=
  .record (may .text ["gmsaCredentialSpec", "gmsaCredentialSpecName", "runAsUserName"]
    ++ may .bool ["hostProcess"])

/-- The rights that pods and their containers share. -/
def rights : List Field :=
  may int64 ["runAsGroup", "runAsUser"] ++ may .bool ["runAsNonRoot"]
    ++ [("seLinuxOptions", .optional, labelOptions), ("seccompProfile", .optional, callProfile),
      ("windowsOptions", .optional, hostOptions)]

def containerRights : Schema :=
  .record (rights ++ may .bool ["allowPrivilegeEscalation", "privileged", "readOnlyRootFilesystem"]
    ++ may .text ["procMount"]
    ++ [("capabilities", .optional, .record (may (.list .text) ["add", "drop"]))])

def port : List Field :=
  must int32 ["containerPort"] ++ may .text ["hostIP", "name", "protocol"] ++ may int32 ["hostPort"]

def resources : Schema :=
  .record (may (.list named) ["claims"] ++ may (.table .text) ["limits", "requests"])

def mount : List Field :=
  must .text ["mountPath", "name"] ++ may .text ["mountPropagation", "subPath", "subPathExpr"]
    ++ may .bool ["readOnly"]

def container : List Field :=
  must .text ["name"]
    ++ may .text ["image", "imagePullPolicy", "restartPolicy", "terminationMessagePath",
      "terminationMessagePolicy", "workingDir"]
    ++ may .bool ["stdin", "stdinOnce", "tty"]
    ++ may (.list .text) ["args", "command"]
    ++ may probe ["livenessProbe", "readinessProbe", "startupProbe"]
    ++ [("env", .optional, .list (.record environment)),
      ("envFrom", .optional, .list (.record environmentSource)),
      ("lifecycle", .optional, .record (may hook ["postStart", "preStop"])),
      ("ports", .optional, .list (.record port)),
      ("resizePolicy", .optional, .list (.record (must .text ["resourceName", "restartPolicy"]))),
      ("resources", .optional, resources), ("securityContext", .optional, containerRights),
      ("volumeDevices", .optional, .list (.record (must .text ["devicePath", "name"]))),
      ("volumeMounts", .optional, .list (.record mount))]

def keyFiles : Schema := .record (must .text ["key", "path"] ++ may int32 ["mode"])

def fieldFiles : Schema :=
  .record ([("fieldRef", .optional, fieldReference), ("resourceFieldRef", .optional, resourceReference)]
    ++ may int32 ["mode"] ++ must .text ["path"])

def claimResources : Schema := .record (may (.table .text) ["limits", "requests"])

def claimSpec : Schema :=
  .record (may (.list .text) ["accessModes"]
    ++ may .text ["storageClassName", "volumeAttributesClassName", "volumeMode", "volumeName"]
    ++ [("dataSource", .optional, .record (may .text ["apiGroup"] ++ must .text ["kind", "name"])),
      ("dataSourceRef", .optional,
        .record (may .text ["apiGroup", "namespace"] ++ must .text ["kind", "name"])),
      ("resources", .optional, claimResources), ("selector", .optional, labelSelectorSchema)])

def projection : Schema :=
  .record [("clusterTrustBundle", .optional, .record
      (may labelSelectorSchema ["labelSelector"] ++ may .text ["name", "signerName"]
        ++ may .bool ["optional"] ++ must .text ["path"])),
    ("configMap", .optional, .record
      (may (.list keyFiles) ["items"] ++ may .text ["name"] ++ may .bool ["optional"])),
    ("downwardAPI", .optional, .record (may (.list fieldFiles) ["items"])),
    ("secret", .optional, .record
      (may (.list keyFiles) ["items"] ++ may .text ["name"] ++ may .bool ["optional"])),
    ("serviceAccountToken", .optional, .record
      (may .text ["audience"] ++ may int64 ["expirationSeconds"] ++ must .text ["path"]))]

def plainVolumes : List Field :=
  let of (required texts flags : List String) (more : List Field) : Schema :=
    .record (must .text required ++ may .text texts ++ may .bool flags ++ more)
  let secretRef : List Field := [("secretRef", .optional, localReference)]
  [("awsElasticBlockStore", .optional, of ["volumeID"] ["fsType"] ["readOnly"] (may int32 ["partition"])),
    ("azureDisk", .optional, of ["diskName", "diskURI"] ["cachingMode", "fsType", "kind"] ["readOnly"] []),
    ("azureFile", .optional, of ["secretName", "shareName"] [] ["readOnly"] []),
    ("cephfs", .optional, of [] ["path", "secretFile", "user"] ["readOnly"]
      (must (.list .text) ["monitors"] ++ secretRef)),
    ("cinder", .optional, of ["volumeID"] ["fsType"] ["readOnly"] secretRef),
    ("csi", .optional, of ["driver"] ["fsType"] ["readOnly"]
      (may (.table .text) ["volumeAttributes"] ++ may localReference ["nodePublishSecretRef"])),
    ("emptyDir", .optional, of [] ["medium", "sizeLimit"] [] []),
    ("fc", .optional, of [] ["fsType"] ["readOnly"]
      (may int32 ["lun"] ++ may (.list .text) ["targetWWNs", "wwids"])),
    ("flexVolume", .optional, of ["driver"] ["fsType"] ["readOnly"]
      (may (.table .text) ["options"] ++ secretRef)),
    ("flocker", .optional, of [] ["datasetName", "datasetUUID"] [] []),
    ("gcePersistentDisk", .optional, of ["pdName"] ["fsType"] ["readOnly"] (may int32 ["partition"])),
    ("gitRepo", .optional, of ["repository"] ["directory", "revision"] [] []),
    ("glusterfs", .optional, of ["endpoints", "path"] [] ["readOnly"] []),
    ("hostPath", .optional, of ["path"] ["type"] [] []),
    ("iscsi", .optional, of ["iqn", "targetPortal"] ["fsType", "initiatorName", "iscsiInterface"]
      ["chapAuthDiscovery", "chapAuthSession", "readOnly"]
      (must int32 ["lun"] ++ may (.list .text) ["portals"] ++ secretRef)),
    ("nfs", .optional, of ["path", "server"] [] ["readOnly"] []),
    ("persistentVolumeClaim", .optional, of ["claimName"] [] ["readOnly"] []),
    ("photonPersistentDisk", .optional, of ["pdID"] ["fsType"] [] []),
    ("portworxVolume", .optional, of ["volumeID"] ["fsType"] ["readOnly"] []),
    ("quobyte", .optional, of ["registry", "volume"] ["group", "tenant", "user"] ["readOnly"] []),
    ("rbd", .optional, of ["image"] ["fsType", "keyring", "pool", "user"] ["readOnly"]
      (must (.list .text) ["monitors"] ++ secretRef)),
    ("scaleIO", .optional, of ["gateway", "system"]
      ["fsType", "protectionDomain", "storageMode", "storagePool", "volumeName"]
      ["readOnly", "sslEnabled"] (must localReference ["secretRef"])),
    ("storageos", .optional, of [] ["fsType", "volumeName", "volumeNamespace"] ["readOnly"] secretRef),
    ("vsphereVolume", .optional, of ["volumePath"] ["fsType", "storagePolicyID", "storagePolicyName"] [] [])]

def volume : List Field :=
  must .text ["name"] ++ plainVolumes
    ++ [("configMap", .optional, .record (may int32 ["defaultMode"] ++ may (.list keyFiles) ["items"]
        ++ may .text ["name"] ++ may .bool ["optional"])),
      ("downwardAPI", .optional, .record (may int32 ["defaultMode"] ++ may (.list fieldFiles) ["items"])),
      ("ephemeral", .optional, .record [("volumeClaimTemplate", .optional, .record
        [("metadata", .optional, metadataSchema), ("spec", .required, claimSpec)])]),
      ("projected", .optional, .record
        (may int32 ["defaultMode"] ++ may (.list projection) ["sources"])),
      ("secret", .optional, .record (may int32 ["defaultMode"] ++ may (.list keyFiles) ["items"]
        ++ may .bool ["optional"] ++ may .text ["secretName"]))]

def nodeTerm : Schema :=
  .record (may (.list (.record (must .text ["key", "operator"] ++ may (.list .text) ["values"])))
    ["matchExpressions", "matchFields"])

def podTerm : Schema :=
  .record (may labelSelectorSchema ["labelSelector", "namespaceSelector"]
    ++ may (.list .text) ["matchLabelKeys", "mismatchLabelKeys", "namespaces"]
    ++ must .text ["topologyKey"])

def podPlacement : Schema :=
  .record [("preferredDuringSchedulingIgnoredDuringExecution", .optional, .list (.record
      (must podTerm ["podAffinityTerm"] ++ must int32 ["weight"]))),
    ("requiredDuringSchedulingIgnoredDuringExecution", .optional, .list podTerm)]

def affinity : Schema :=
  .record ([("nodeAffinity", .optional, .record
      [("preferredDuringSchedulingIgnoredDuringExecution", .optional, .list (.record
          (must nodeTerm ["preference"] ++ must int32 ["weight"]))),
        ("requiredDuringSchedulingIgnoredDuringExecution", .optional, .record
          (must (.list nodeTerm) ["nodeSelectorTerms"]))])]
    ++ may podPlacement ["podAffinity", "podAntiAffinity"])

def spread : Schema :=
  .record (may labelSelectorSchema ["labelSelector"] ++ may (.list .text) ["matchLabelKeys"]
    ++ must int32 ["maxSkew"] ++ may int32 ["minDomains"]
    ++ may .text ["nodeAffinityPolicy", "nodeTaintsPolicy"]
    ++ must .text ["topologyKey", "whenUnsatisfiable"])

def toleration : Schema :=
  .record (may .text ["effect", "key", "operator", "value"] ++ may int64 ["tolerationSeconds"])

def podRights : Schema :=
  .record (rights ++ may int64 ["fsGroup"] ++ may .text ["fsGroupChangePolicy"]
    ++ may (.list int64) ["supplementalGroups"]
    ++ may (.list (.record (must .text ["name", "value"]))) ["sysctls"])

def nameService : Schema :=
  .record (may (.list .text) ["nameservers", "searches"]
    ++ may (.list (.record (may .text ["name", "value"]))) ["options"])

def claim : Schema :=
  .record (must .text ["name"] ++ [("source", .optional, .record
    (may .text ["resourceClaimName", "resourceClaimTemplateName"]))])

def podFields : List Field :=
  must (.list (.record container)) ["containers"]
    ++ may (.list (.record container)) ["initContainers"]
    ++ may (.list (.record (container ++ may .text ["targetContainerName"]))) ["ephemeralContainers"]
    ++ may int64 ["activeDeadlineSeconds", "terminationGracePeriodSeconds"]
    ++ may int32 ["priority"]
    ++ may .bool ["automountServiceAccountToken", "enableServiceLinks", "hostIPC", "hostNetwork",
      "hostPID", "hostUsers", "setHostnameAsFQDN", "shareProcessNamespace"]
    ++ may .text ["dnsPolicy", "hostname", "nodeName", "preemptionPolicy", "priorityClassName",
      "restartPolicy", "runtimeClassName", "schedulerName", "serviceAccount", "serviceAccountName",
      "subdomain"]
    ++ may (.table .text) ["nodeSelector", "overhead"]
    ++ [("affinity", .optional, affinity), ("dnsConfig", .optional, nameService),
      ("hostAliases", .optional,
        .list (.record (may (.list .text) ["hostnames"] ++ may .text ["ip"]))),
      ("imagePullSecrets", .optional, .list localReference), ("os", .optional, named),
      ("readinessGates", .optional, .list (.record (must .text ["conditionType"]))),
      ("resourceClaims", .optional, .list claim), ("schedulingGates", .optional, .list named),
      ("securityContext", .optional, podRights), ("tolerations", .optional, .list toleration),
      ("topologySpreadConstraints", .optional, .list spread),
      ("volumes", .optional, .list (.record volume))]

def schema : Schema :=
  .record [("metadata", .optional, metadataSchema), ("spec", .optional, .record podFields)]

end Rollback.Api.PodTemplate
