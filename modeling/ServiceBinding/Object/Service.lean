import ServiceBinding.Object.Resource

/-!
Services: the stable addresses of a set of pods. Addresses and node ports are allocated by the
platform.
-/
namespace ServiceBinding.Object

structure ServicePort where
  name : Option String
  port : Int32
  nodePort : Option Int32
  targetPort : Option IntOrText
  protocol : Option String
  appProtocol : Option String := none
deriving DecidableEq, Repr

def serviceNames : List String :=
  ["allocateLoadBalancerNodePorts", "externalIPs", "externalName", "internalTrafficPolicy",
    "ipFamilyPolicy", "loadBalancerClass", "loadBalancerSourceRanges", "publishNotReadyAddresses",
    "sessionAffinityConfig", "trafficDistribution"]

/-- What a service asks for. -/
structure ServiceSpec where
  type : Option String := none
  clusterIP : Option String := none
  clusterIPs : Option (List String) := none
  ports : Option (List ServicePort) := none
  selector : Option (Dict String) := none
  healthCheckNodePort : Option Int32 := none
  externalTrafficPolicy : Option String := none
  sessionAffinity : Option String := none
  loadBalancerIP : Option String := none
  ipFamilies : Option (List String) := none
  rest : Json.Rest serviceNames := .empty
deriving DecidableEq

/-- An address at which a load balancer is reached. -/
structure Ingress where
  ip : Option String
  rest : Json.Rest ["hostname", "ipMode", "ports"] := .empty
deriving DecidableEq

/-- The addresses of a load balancer. -/
structure LoadBalancer where
  ingress : Option (List Ingress)
deriving DecidableEq

/-- What the platform reports of a service. -/
structure ServiceStatus where
  loadBalancer : Option LoadBalancer
  rest : Json.Rest ["conditions"] := .empty
deriving DecidableEq

structure Service where
  metadata : Meta := {}
  spec : Option ServiceSpec := none
  status : Option ServiceStatus := none
deriving DecidableEq

/-! ### JSON form -/

def ServicePort.toJson (p : ServicePort) : Json :=
  .record [
    ("appProtocol", p.appProtocol.map .str),
    ("name", p.name.map .str),
    ("nodePort", p.nodePort.map .int32),
    ("port", some (.int32 p.port)),
    ("protocol", p.protocol.map .str),
    ("targetPort", p.targetPort.map IntOrText.toJson)]

def ServicePort.ofJson? (j : Json) : Option ServicePort := do
  let m ← j.members?
  return {
    name := ← Json.optional Json.text? (m "name")
    port := ← Json.lenient Json.int32? 0 (m "port")
    nodePort := ← Json.optional Json.int32? (m "nodePort")
    targetPort := ← Json.optional IntOrText.ofJson? (m "targetPort")
    protocol := ← Json.optional Json.text? (m "protocol")
    appProtocol := ← Json.optional Json.text? (m "appProtocol") }

/-- The members of what a service asks for apart from those kept as they are. -/
def ServiceSpec.members (s : ServiceSpec) : List (String × Option Json) := [
  ("clusterIP", s.clusterIP.map .str),
  ("clusterIPs", s.clusterIPs.map .texts),
  ("externalTrafficPolicy", s.externalTrafficPolicy.map .str),
  ("healthCheckNodePort", s.healthCheckNodePort.map .int32),
  ("ipFamilies", s.ipFamilies.map .texts),
  ("loadBalancerIP", s.loadBalancerIP.map .str),
  ("ports", s.ports.map (.ofList ServicePort.toJson)),
  ("selector", s.selector.map .textDict),
  ("sessionAffinity", s.sessionAffinity.map .str),
  ("type", s.type.map .str)]

def ServiceSpec.toJson (s : ServiceSpec) : Json := .recordWith s.rest s.members

def ServiceSpec.ofJson? (j : Json) : Option ServiceSpec := do
  let m ← j.members?
  return {
    type := ← Json.optional Json.text? (m "type")
    clusterIP := ← Json.optional Json.text? (m "clusterIP")
    clusterIPs := ← Json.optional (Json.list? Json.text?) (m "clusterIPs")
    ports := ← Json.optional (Json.list? ServicePort.ofJson?) (m "ports")
    selector := ← Json.optional (Json.dict? Json.text?) (m "selector")
    healthCheckNodePort := ← Json.optional Json.int32? (m "healthCheckNodePort")
    externalTrafficPolicy := ← Json.optional Json.text? (m "externalTrafficPolicy")
    sessionAffinity := ← Json.optional Json.text? (m "sessionAffinity")
    loadBalancerIP := ← Json.optional Json.text? (m "loadBalancerIP")
    ipFamilies := ← Json.optional (Json.list? Json.text?) (m "ipFamilies")
    rest := ← Json.rest? serviceNames m }

def Ingress.toJson (i : Ingress) : Json := .recordWith i.rest [("ip", i.ip.map .str)]

def Ingress.ofJson? (j : Json) : Option Ingress := do
  let m ← j.members?
  return { ip := ← Json.optional Json.text? (m "ip"), rest := ← Json.rest? _ m }

def LoadBalancer.toJson (l : LoadBalancer) : Json :=
  .record [("ingress", l.ingress.map (.ofList Ingress.toJson))]

def LoadBalancer.ofJson? (j : Json) : Option LoadBalancer := do
  let m ← j.members?
  return { ingress := ← Json.optional (Json.list? Ingress.ofJson?) (m "ingress") }

def ServiceStatus.toJson (s : ServiceStatus) : Json :=
  .recordWith s.rest [("loadBalancer", s.loadBalancer.map LoadBalancer.toJson)]

def ServiceStatus.ofJson? (j : Json) : Option ServiceStatus := do
  let m ← j.members?
  return {
    loadBalancer := ← Json.optional LoadBalancer.ofJson? (m "loadBalancer")
    rest := ← Json.rest? _ m }

def Service.toJson (s : Service) : Json :=
  .record [
    ("apiVersion", some (.str "v1")),
    ("kind", some (.str "Service")),
    ("metadata", some s.metadata.toJson),
    ("spec", s.spec.map ServiceSpec.toJson),
    ("status", s.status.map ServiceStatus.toJson)]

def Service.ofJson? (j : Json) : Option Service := do
  let m ← typedMembers? "v1" "Service" j
  return {
    metadata := ← Json.lenient Meta.ofJson? {} (m "metadata")
    spec := ← Json.optional ServiceSpec.ofJson? (m "spec")
    status := ← Json.optional ServiceStatus.ofJson? (m "status") }

instance : Resource Service where
  kind := "Service"
  apiVersion := "v1"
  metadata := Service.metadata
  withMetadata s m := { s with metadata := m }
  toJson := Service.toJson
  ofJson? := Service.ofJson?
  metadata_withMetadata _ _ := rfl
  withMetadata_metadata _ := rfl
  withMetadata_withMetadata _ _ _ := rfl

end ServiceBinding.Object
