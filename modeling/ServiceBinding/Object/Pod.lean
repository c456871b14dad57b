import ServiceBinding.Object.Volume

/-!
Pods: their containers, and what each container is given as variables, mounts and ports. A pod is
whole here, but where and how it is scheduled, its security, its probes, hooks and commands are
nothing that a binding touches: these members, of pods and of containers, are in `rest`.
-/
namespace ServiceBinding.Object

/-- A key of a secret or config map. -/
structure KeyRef where
  name : String
  key : String
  optional : Option Bool := none
deriving DecidableEq, Repr

/-- Where the value of a variable comes from. -/
structure ValueSource where
  secretKeyRef : Option KeyRef := none
  configMapKeyRef : Option KeyRef := none
  fieldRef : Option FieldRef := none
  resourceFieldRef : Option ResourceRef := none
deriving DecidableEq, Repr

/-- An environment variable, with a value or a reference to one. -/
structure EnvVar where
  name : String
  value : Option String := none
  valueFrom : Option ValueSource := none
deriving DecidableEq, Repr

/-- A secret or config map, and whether it may be missing. -/
structure EnvSource where
  name : String
  optional : Option Bool := none
deriving DecidableEq, Repr

/-- An object all of whose keys become variables, their names begun with some text. -/
structure EnvFrom where
  secretRef : Option EnvSource := none
  configMapRef : Option EnvSource := none
  stem : Option String := none
deriving DecidableEq, Repr

/-- A directory at which a container sees a volume. -/
structure Mount where
  name : String
  mountPath : String
  readOnly : Option Bool := none
  subPath : Option String := none
  subPathExpr : Option String := none
  mountPropagation : Option String := none
  recursiveReadOnly : Option String := none
deriving DecidableEq, Repr

structure ContainerPort where
  containerPort : Int32
  protocol : Option String := none
  name : Option String := none
  hostIP : Option String := none
  hostPort : Option Int32 := none
deriving DecidableEq, Repr

/-- One of the devices that a pod has claimed. -/
structure DeviceClaim where
  name : String
  request : Option String := none
deriving DecidableEq, Repr

/-- What a container needs and what it may use at most. -/
structure Needs where
  limits : Option (Dict String) := none
  requests : Option (Dict String) := none
  claims : Option (List DeviceClaim) := none
deriving DecidableEq

def containerNames : List String :=
  ["args", "command", "lifecycle", "livenessProbe", "readinessProbe", "resizePolicy",
    "restartPolicy", "securityContext", "startupProbe", "stdin", "stdinOnce",
    "terminationMessagePolicy", "tty", "volumeDevices", "workingDir"]

structure Container where
  name : String
  image : Option String := none
  imagePullPolicy : Option String := none
  terminationMessagePath : Option String := none
  env : Option (List EnvVar) := none
  envFrom : Option (List EnvFrom) := none
  volumeMounts : Option (List Mount) := none
  ports : Option (List ContainerPort) := none
  resources : Option Needs := none
  rest : Json.Rest containerNames := .empty
deriving DecidableEq

def podNames : List String :=
  ["activeDeadlineSeconds", "affinity", "automountServiceAccountToken", "dnsConfig",
    "enableServiceLinks", "ephemeralContainers", "hostAliases", "hostIPC", "hostNetwork", "hostPID",
    "hostUsers", "hostname", "imagePullSecrets", "nodeName", "nodeSelector", "os", "overhead",
    "preemptionPolicy", "priority", "priorityClassName", "readinessGates", "resourceClaims",
    "resources", "runtimeClassName", "schedulerName", "schedulingGates", "securityContext",
    "serviceAccount", "serviceAccountName", "setHostnameAsFQDN", "shareProcessNamespace",
    "subdomain", "terminationGracePeriodSeconds", "tolerations", "topologySpreadConstraints"]

/-- What a pod runs. -/
structure PodSpec where
  containers : List Container := []
  initContainers : Option (List Container) := none
  volumes : Option (List Volume) := none
  dnsPolicy : Option String := none
  restartPolicy : Option String := none
  rest : Json.Rest podNames := .empty
deriving DecidableEq

/-- A variable with a literal value. -/
def EnvVar.plain (name value : String) : EnvVar := { name := name, value := some value }

/-! ### JSON form -/

def KeyRef.toJson (r : KeyRef) : Json :=
  .record [
    ("key", some (.str r.key)),
    ("name", some (.str r.name)),
    ("optional", r.optional.map .bool)]

def KeyRef.ofJson? (j : Json) : Option KeyRef := do
  let m ← j.members?
  return {
    name := ← Json.lenient Json.text? "" (m "name")
    key := ← Json.lenient Json.text? "" (m "key")
    optional := ← Json.optional Json.bool? (m "optional") }

def ValueSource.toJson (s : ValueSource) : Json :=
  .record [
    ("configMapKeyRef", s.configMapKeyRef.map KeyRef.toJson),
    ("fieldRef", s.fieldRef.map FieldRef.toJson),
    ("resourceFieldRef", s.resourceFieldRef.map ResourceRef.toJson),
    ("secretKeyRef", s.secretKeyRef.map KeyRef.toJson)]

def ValueSource.ofJson? (j : Json) : Option ValueSource := do
  let m ← j.members?
  return {
    secretKeyRef := ← Json.optional KeyRef.ofJson? (m "secretKeyRef")
    configMapKeyRef := ← Json.optional KeyRef.ofJson? (m "configMapKeyRef")
    fieldRef := ← Json.optional FieldRef.ofJson? (m "fieldRef")
    resourceFieldRef := ← Json.optional ResourceRef.ofJson? (m "resourceFieldRef") }

def EnvVar.toJson (e : EnvVar) : Json :=
  .record [
    ("name", some (.str e.name)),
    ("value", e.value.map .str),
    ("valueFrom", e.valueFrom.map ValueSource.toJson)]

def EnvVar.ofJson? (j : Json) : Option EnvVar := do
  let m ← j.members?
  return {
    name := ← Json.lenient Json.text? "" (m "name")
    value := ← Json.optional Json.text? (m "value")
    valueFrom := ← Json.optional ValueSource.ofJson? (m "valueFrom") }

def EnvSource.toJson (s : EnvSource) : Json :=
  .record [("name", some (.str s.name)), ("optional", s.optional.map .bool)]

def EnvSource.ofJson? (j : Json) : Option EnvSource := do
  let m ← j.members?
  return {
    name := ← Json.lenient Json.text? "" (m "name")
    optional := ← Json.optional Json.bool? (m "optional") }

def EnvFrom.toJson (e : EnvFrom) : Json :=
  .record [
    ("configMapRef", e.configMapRef.map EnvSource.toJson),
    ("prefix", e.stem.map .str),
    ("secretRef", e.secretRef.map EnvSource.toJson)]

def EnvFrom.ofJson? (j : Json) : Option EnvFrom := do
  let m ← j.members?
  return {
    secretRef := ← Json.optional EnvSource.ofJson? (m "secretRef")
    configMapRef := ← Json.optional EnvSource.ofJson? (m "configMapRef")
    stem := ← Json.optional Json.text? (m "prefix") }

def Mount.toJson (v : Mount) : Json :=
  .record [
    ("mountPath", some (.str v.mountPath)),
    ("mountPropagation", v.mountPropagation.map .str),
    ("name", some (.str v.name)),
    ("readOnly", v.readOnly.map .bool),
    ("recursiveReadOnly", v.recursiveReadOnly.map .str),
    ("subPath", v.subPath.map .str),
    ("subPathExpr", v.subPathExpr.map .str)]

def Mount.ofJson? (j : Json) : Option Mount := do
  let m ← j.members?
  return {
    name := ← Json.lenient Json.text? "" (m "name")
    mountPath := ← Json.lenient Json.text? "" (m "mountPath")
    readOnly := ← Json.optional Json.bool? (m "readOnly")
    subPath := ← Json.optional Json.text? (m "subPath")
    subPathExpr := ← Json.optional Json.text? (m "subPathExpr")
    mountPropagation := ← Json.optional Json.text? (m "mountPropagation")
    recursiveReadOnly := ← Json.optional Json.text? (m "recursiveReadOnly") }

def ContainerPort.toJson (p : ContainerPort) : Json :=
  .record [
    ("containerPort", some (.int32 p.containerPort)),
    ("hostIP", p.hostIP.map .str),
    ("hostPort", p.hostPort.map .int32),
    ("name", p.name.map .str),
    ("protocol", p.protocol.map .str)]

def ContainerPort.ofJson? (j : Json) : Option ContainerPort := do
  let m ← j.members?
  return {
    containerPort := ← Json.lenient Json.int32? 0 (m "containerPort")
    protocol := ← Json.optional Json.text? (m "protocol")
    name := ← Json.optional Json.text? (m "name")
    hostIP := ← Json.optional Json.text? (m "hostIP")
    hostPort := ← Json.optional Json.int32? (m "hostPort") }

def DeviceClaim.toJson (c : DeviceClaim) : Json :=
  .record [("name", some (.str c.name)), ("request", c.request.map .str)]

def DeviceClaim.ofJson? (j : Json) : Option DeviceClaim := do
  let m ← j.members?
  return {
    name := ← Json.lenient Json.text? "" (m "name")
    request := ← Json.optional Json.text? (m "request") }

def Needs.toJson (n : Needs) : Json :=
  .record [
    ("claims", n.claims.map (.ofList DeviceClaim.toJson)),
    ("limits", n.limits.map .textDict),
    ("requests", n.requests.map .textDict)]

def Needs.ofJson? (j : Json) : Option Needs := do
  let m ← j.members?
  return {
    limits := ← Json.optional (Json.dict? Json.text?) (m "limits")
    requests := ← Json.optional (Json.dict? Json.text?) (m "requests")
    claims := ← Json.optional (Json.list? DeviceClaim.ofJson?) (m "claims") }

/-- The members of a container apart from those kept as they are. -/
def Container.members (c : Container) : List (String × Option Json) := [
  ("env", c.env.map (.ofList EnvVar.toJson)),
  ("envFrom", c.envFrom.map (.ofList EnvFrom.toJson)),
  ("image", c.image.map .str),
  ("imagePullPolicy", c.imagePullPolicy.map .str),
  ("name", some (.str c.name)),
  ("ports", c.ports.map (.ofList ContainerPort.toJson)),
  ("resources", c.resources.map Needs.toJson),
  ("terminationMessagePath", c.terminationMessagePath.map .str),
  ("volumeMounts", c.volumeMounts.map (.ofList Mount.toJson))]

def Container.toJson (c : Container) : Json := .recordWith c.rest c.members

def Container.ofJson? (j : Json) : Option Container := do
  let m ← j.members?
  return {
    name := ← Json.lenient Json.text? "" (m "name")
    image := ← Json.optional Json.text? (m "image")
    imagePullPolicy := ← Json.optional Json.text? (m "imagePullPolicy")
    terminationMessagePath := ← Json.optional Json.text? (m "terminationMessagePath")
    env := ← Json.optional (Json.list? EnvVar.ofJson?) (m "env")
    envFrom := ← Json.optional (Json.list? EnvFrom.ofJson?) (m "envFrom")
    volumeMounts := ← Json.optional (Json.list? Mount.ofJson?) (m "volumeMounts")
    ports := ← Json.optional (Json.list? ContainerPort.ofJson?) (m "ports")
    resources := ← Json.optional Needs.ofJson? (m "resources")
    rest := ← Json.rest? containerNames m }

/-- The members of a pod apart from those kept as they are. -/
def PodSpec.members (p : PodSpec) : List (String × Option Json) := [
  ("containers", some (.ofList Container.toJson p.containers)),
  ("dnsPolicy", p.dnsPolicy.map .str),
  ("initContainers", p.initContainers.map (.ofList Container.toJson)),
  ("restartPolicy", p.restartPolicy.map .str),
  ("volumes", p.volumes.map (.ofList Volume.toJson))]

def PodSpec.toJson (p : PodSpec) : Json := .recordWith p.rest p.members

def PodSpec.ofJson? (j : Json) : Option PodSpec := do
  let m ← j.members?
  return {
    containers := ← Json.lenient (Json.list? Container.ofJson?) [] (m "containers")
    initContainers := ← Json.optional (Json.list? Container.ofJson?) (m "initContainers")
    volumes := ← Json.optional (Json.list? Volume.ofJson?) (m "volumes")
    dnsPolicy := ← Json.optional Json.text? (m "dnsPolicy")
    restartPolicy := ← Json.optional Json.text? (m "restartPolicy")
    rest := ← Json.rest? podNames m }

end ServiceBinding.Object
