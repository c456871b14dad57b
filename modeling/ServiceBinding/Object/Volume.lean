import ServiceBinding.Object.Meta

/-!
Volumes of a pod: where the files of a mounted directory come from. A volume keeps each of its
possible sources separately; its kind is that of the first one it has, in alphabetical order.
Secrets, config maps and projected volumes are united entry by entry. Nothing looks into a source
of any other kind: those of a few common kinds are here by type, and the others are in `rest`.
-/
namespace ServiceBinding.Object

/-- One key of an object and the file it becomes. -/
structure Item where
  key : String
  path : String
  mode : Option Int32 := none
deriving DecidableEq, Repr

structure SecretVolume where
  secretName : Option String := none
  items : Option (List Item) := none
  defaultMode : Option Int32 := none
  optional : Option Bool := none
deriving DecidableEq, Repr

structure ConfigMapVolume where
  name : String := ""
  items : Option (List Item) := none
  defaultMode : Option Int32 := none
  optional : Option Bool := none
deriving DecidableEq, Repr

/-- The files taken from a secret or config map within a projected volume, which has the mode of
them all. -/
structure ObjectItems where
  name : String := ""
  items : Option (List Item) := none
  optional : Option Bool := none
deriving DecidableEq, Repr

/-- A token of the pod's service account. -/
structure TokenSource where
  path : String
  audience : Option String
  expirationSeconds : Option Int64
deriving DecidableEq, Repr

/-- A field of the pod. -/
structure FieldRef where
  fieldPath : String
  apiVersion : Option String := none
deriving DecidableEq, Repr

/-- What a container of the pod asks for or is limited to. -/
structure ResourceRef where
  resource : String
  containerName : Option String := none
  divisor : Option String := none
deriving DecidableEq, Repr

/-- A file that holds a field of the pod or what one of its containers may use. -/
structure DownwardItem where
  path : String
  fieldRef : Option FieldRef
  resourceFieldRef : Option ResourceRef := none
  mode : Option Int32 := none
deriving DecidableEq, Repr

structure DownwardSource where
  items : Option (List DownwardItem)
deriving DecidableEq, Repr

/-- A file that holds the certificates of authorities which the cluster trusts. -/
structure TrustBundle where
  path : String
  name : Option String := none
  signerName : Option String := none
  labelSelector : Option LabelSelector := none
  optional : Option Bool := none
deriving DecidableEq

/-- One source of a projected volume. -/
structure ProjectedSource where
  secret : Option ObjectItems := none
  configMap : Option ObjectItems := none
  serviceAccountToken : Option TokenSource := none
  downwardAPI : Option DownwardSource := none
  clusterTrustBundle : Option TrustBundle := none
deriving DecidableEq

/-- A volume that unites the files of several sources. -/
structure ProjectedVolume where
  sources : Option (List ProjectedSource) := none
  defaultMode : Option Int32 := none
deriving DecidableEq

/-- Scratch space. -/
structure EmptyDir where
  medium : Option String
  sizeLimit : Option String
deriving DecidableEq, Repr

/-- A directory of the node. -/
structure HostPath where
  path : String
  type : Option String
deriving DecidableEq, Repr

/-- A claimed persistent volume. -/
structure ClaimVolume where
  claimName : String
  readOnly : Option Bool := none
deriving DecidableEq, Repr

/-- The kinds of sources that are kept as they are. -/
def sourceNames : List String :=
  ["awsElasticBlockStore", "azureDisk", "azureFile", "cephfs", "cinder", "csi", "downwardAPI",
    "ephemeral", "fc", "flexVolume", "flocker", "gcePersistentDisk", "gitRepo", "glusterfs",
    "image", "iscsi", "nfs", "photonPersistentDisk", "portworxVolume", "quobyte", "rbd",
    "scaleIO", "storageos", "vsphereVolume"]

structure Volume where
  name : String
  secret : Option SecretVolume := none
  configMap : Option ConfigMapVolume := none
  projected : Option ProjectedVolume := none
  emptyDir : Option EmptyDir := none
  hostPath : Option HostPath := none
  claim : Option ClaimVolume := none
  rest : Json.Rest sourceNames := .empty
deriving DecidableEq

/-- The kinds of volume sources. -/
inductive SourceKind where
  | configMap
  | emptyDir
  | hostPath
  | persistentVolumeClaim
  | projected
  | secret
  | other (name : String) (named : name ∈ sourceNames := by decide +kernel)
deriving DecidableEq, Repr

/-- The name of the member that holds a source of this kind. -/
def SourceKind.name : SourceKind → String
  | .configMap => "configMap"
  | .emptyDir => "emptyDir"
  | .hostPath => "hostPath"
  | .persistentVolumeClaim => "persistentVolumeClaim"
  | .projected => "projected"
  | .secret => "secret"
  | .other name _ => name

/-- All kinds, their names in alphabetical order. -/
def SourceKind.all : List SourceKind :=
  [.other "awsElasticBlockStore", .other "azureDisk", .other "azureFile", .other "cephfs",
    .other "cinder", .configMap, .other "csi", .other "downwardAPI", .emptyDir,
    .other "ephemeral", .other "fc", .other "flexVolume", .other "flocker",
    .other "gcePersistentDisk", .other "gitRepo", .other "glusterfs", .hostPath, .other "image",
    .other "iscsi", .other "nfs", .persistentVolumeClaim, .other "photonPersistentDisk",
    .other "portworxVolume", .projected, .other "quobyte", .other "rbd", .other "scaleIO",
    .secret, .other "storageos", .other "vsphereVolume"]

def Volume.has (v : Volume) : SourceKind → Bool
  | .configMap => v.configMap.isSome
  | .emptyDir => v.emptyDir.isSome
  | .hostPath => v.hostPath.isSome
  | .persistentVolumeClaim => v.claim.isSome
  | .projected => v.projected.isSome
  | .secret => v.secret.isSome
  | .other name _ => (v.rest.members.get? name).isSome

/-- The kind of the first source that the volume has, in alphabetical order. -/
def Volume.sourceKind? (v : Volume) : Option SourceKind := SourceKind.all.find? v.has

/-! ### JSON form -/

def Item.toJson (i : Item) : Json :=
  .record [
    ("key", some (.str i.key)),
    ("mode", i.mode.map .int32),
    ("path", some (.str i.path))]

def Item.ofJson? (j : Json) : Option Item := do
  let m ← j.members?
  return {
    key := ← Json.lenient Json.text? "" (m "key")
    path := ← Json.lenient Json.text? "" (m "path")
    mode := ← Json.optional Json.int32? (m "mode") }

def SecretVolume.toJson (v : SecretVolume) : Json :=
  .record [
    ("defaultMode", v.defaultMode.map .int32),
    ("items", v.items.map (.ofList Item.toJson)),
    ("optional", v.optional.map .bool),
    ("secretName", v.secretName.map .str)]

def SecretVolume.ofJson? (j : Json) : Option SecretVolume := do
  let m ← j.members?
  return {
    secretName := ← Json.optional Json.text? (m "secretName")
    items := ← Json.optional (Json.list? Item.ofJson?) (m "items")
    defaultMode := ← Json.optional Json.int32? (m "defaultMode")
    optional := ← Json.optional Json.bool? (m "optional") }

def ConfigMapVolume.toJson (v : ConfigMapVolume) : Json :=
  .record [
    ("defaultMode", v.defaultMode.map .int32),
    ("items", v.items.map (.ofList Item.toJson)),
    ("name", some (.str v.name)),
    ("optional", v.optional.map .bool)]

def ConfigMapVolume.ofJson? (j : Json) : Option ConfigMapVolume := do
  let m ← j.members?
  return {
    name := ← Json.lenient Json.text? "" (m "name")
    items := ← Json.optional (Json.list? Item.ofJson?) (m "items")
    defaultMode := ← Json.optional Json.int32? (m "defaultMode")
    optional := ← Json.optional Json.bool? (m "optional") }

def ObjectItems.toJson (v : ObjectItems) : Json :=
  .record [
    ("items", v.items.map (.ofList Item.toJson)),
    ("name", some (.str v.name)),
    ("optional", v.optional.map .bool)]

def ObjectItems.ofJson? (j : Json) : Option ObjectItems := do
  let m ← j.members?
  return {
    name := ← Json.lenient Json.text? "" (m "name")
    items := ← Json.optional (Json.list? Item.ofJson?) (m "items")
    optional := ← Json.optional Json.bool? (m "optional") }

def TokenSource.toJson (s : TokenSource) : Json :=
  .record [
    ("audience", s.audience.map .str),
    ("expirationSeconds", s.expirationSeconds.map .int64),
    ("path", some (.str s.path))]

def TokenSource.ofJson? (j : Json) : Option TokenSource := do
  let m ← j.members?
  return {
    path := ← Json.lenient Json.text? "" (m "path")
    audience := ← Json.optional Json.text? (m "audience")
    expirationSeconds := ← Json.optional Json.int64? (m "expirationSeconds") }

def FieldRef.toJson (r : FieldRef) : Json :=
  .record [("apiVersion", r.apiVersion.map .str), ("fieldPath", some (.str r.fieldPath))]

def FieldRef.ofJson? (j : Json) : Option FieldRef := do
  let m ← j.members?
  return {
    fieldPath := ← Json.lenient Json.text? "" (m "fieldPath")
    apiVersion := ← Json.optional Json.text? (m "apiVersion") }

def ResourceRef.toJson (r : ResourceRef) : Json :=
  .record [
    ("containerName", r.containerName.map .str),
    ("divisor", r.divisor.map .str),
    ("resource", some (.str r.resource))]

def ResourceRef.ofJson? (j : Json) : Option ResourceRef := do
  let m ← j.members?
  return {
    resource := ← Json.lenient Json.text? "" (m "resource")
    containerName := ← Json.optional Json.text? (m "containerName")
    divisor := ← Json.optional Json.text? (m "divisor") }

def DownwardItem.toJson (i : DownwardItem) : Json :=
  .record [
    ("fieldRef", i.fieldRef.map FieldRef.toJson),
    ("mode", i.mode.map .int32),
    ("path", some (.str i.path)),
    ("resourceFieldRef", i.resourceFieldRef.map ResourceRef.toJson)]

def DownwardItem.ofJson? (j : Json) : Option DownwardItem := do
  let m ← j.members?
  return {
    path := ← Json.lenient Json.text? "" (m "path")
    fieldRef := ← Json.optional FieldRef.ofJson? (m "fieldRef")
    resourceFieldRef := ← Json.optional ResourceRef.ofJson? (m "resourceFieldRef")
    mode := ← Json.optional Json.int32? (m "mode") }

def DownwardSource.toJson (s : DownwardSource) : Json :=
  .record [("items", s.items.map (.ofList DownwardItem.toJson))]

def DownwardSource.ofJson? (j : Json) : Option DownwardSource := do
  let m ← j.members?
  return { items := ← Json.optional (Json.list? DownwardItem.ofJson?) (m "items") }

def TrustBundle.toJson (b : TrustBundle) : Json :=
  .record [
    ("labelSelector", b.labelSelector.map LabelSelector.toJson),
    ("name", b.name.map .str),
    ("optional", b.optional.map .bool),
    ("path", some (.str b.path)),
    ("signerName", b.signerName.map .str)]

def TrustBundle.ofJson? (j : Json) : Option TrustBundle := do
  let m ← j.members?
  return {
    path := ← Json.lenient Json.text? "" (m "path")
    name := ← Json.optional Json.text? (m "name")
    signerName := ← Json.optional Json.text? (m "signerName")
    labelSelector := ← Json.optional LabelSelector.ofJson? (m "labelSelector")
    optional := ← Json.optional Json.bool? (m "optional") }

def ProjectedSource.toJson (s : ProjectedSource) : Json :=
  .record [
    ("clusterTrustBundle", s.clusterTrustBundle.map TrustBundle.toJson),
    ("configMap", s.configMap.map ObjectItems.toJson),
    ("downwardAPI", s.downwardAPI.map DownwardSource.toJson),
    ("secret", s.secret.map ObjectItems.toJson),
    ("serviceAccountToken", s.serviceAccountToken.map TokenSource.toJson)]

def ProjectedSource.ofJson? (j : Json) : Option ProjectedSource := do
  let m ← j.members?
  return {
    secret := ← Json.optional ObjectItems.ofJson? (m "secret")
    configMap := ← Json.optional ObjectItems.ofJson? (m "configMap")
    serviceAccountToken := ← Json.optional TokenSource.ofJson? (m "serviceAccountToken")
    downwardAPI := ← Json.optional DownwardSource.ofJson? (m "downwardAPI")
    clusterTrustBundle := ← Json.optional TrustBundle.ofJson? (m "clusterTrustBundle") }

def ProjectedVolume.toJson (v : ProjectedVolume) : Json :=
  .record [
    ("defaultMode", v.defaultMode.map .int32),
    ("sources", v.sources.map (.ofList ProjectedSource.toJson))]

def ProjectedVolume.ofJson? (j : Json) : Option ProjectedVolume := do
  let m ← j.members?
  return {
    sources := ← Json.optional (Json.list? ProjectedSource.ofJson?) (m "sources")
    defaultMode := ← Json.optional Json.int32? (m "defaultMode") }

def EmptyDir.toJson (v : EmptyDir) : Json :=
  .record [("medium", v.medium.map .str), ("sizeLimit", v.sizeLimit.map .str)]

def EmptyDir.ofJson? (j : Json) : Option EmptyDir := do
  let m ← j.members?
  return {
    medium := ← Json.optional Json.text? (m "medium")
    sizeLimit := ← Json.optional Json.text? (m "sizeLimit") }

def HostPath.toJson (v : HostPath) : Json :=
  .record [("path", some (.str v.path)), ("type", v.type.map .str)]

def HostPath.ofJson? (j : Json) : Option HostPath := do
  let m ← j.members?
  return {
    path := ← Json.lenient Json.text? "" (m "path")
    type := ← Json.optional Json.text? (m "type") }

def ClaimVolume.toJson (v : ClaimVolume) : Json :=
  .record [("claimName", some (.str v.claimName)), ("readOnly", v.readOnly.map .bool)]

def ClaimVolume.ofJson? (j : Json) : Option ClaimVolume := do
  let m ← j.members?
  return {
    claimName := ← Json.lenient Json.text? "" (m "claimName")
    readOnly := ← Json.optional Json.bool? (m "readOnly") }

/-- The members of a volume apart from those kept as they are. -/
def Volume.members (v : Volume) : List (String × Option Json) := [
  ("configMap", v.configMap.map ConfigMapVolume.toJson),
  ("emptyDir", v.emptyDir.map EmptyDir.toJson),
  ("hostPath", v.hostPath.map HostPath.toJson),
  ("name", some (.str v.name)),
  ("persistentVolumeClaim", v.claim.map ClaimVolume.toJson),
  ("projected", v.projected.map ProjectedVolume.toJson),
  ("secret", v.secret.map SecretVolume.toJson)]

def Volume.toJson (v : Volume) : Json := .recordWith v.rest v.members

def Volume.ofJson? (j : Json) : Option Volume := do
  let m ← j.members?
  return {
    name := ← Json.lenient Json.text? "" (m "name")
    secret := ← Json.optional SecretVolume.ofJson? (m "secret")
    configMap := ← Json.optional ConfigMapVolume.ofJson? (m "configMap")
    projected := ← Json.optional ProjectedVolume.ofJson? (m "projected")
    emptyDir := ← Json.optional EmptyDir.ofJson? (m "emptyDir")
    hostPath := ← Json.optional HostPath.ofJson? (m "hostPath")
    claim := ← Json.optional ClaimVolume.ofJson? (m "persistentVolumeClaim")
    rest := ← Json.rest? sourceNames m }

end ServiceBinding.Object
