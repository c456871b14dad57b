import ServiceBinding.Object.Meta

/-!
What a user declares: a Nuxeo instance, and the backing services it is bound to. A binding names
resources of the cluster and the values to take from them; each value reaches the pod as a
variable, as a file, or as part of a key store.
-/
namespace ServiceBinding

/-- The two flavours of key stores. -/
inductive StoreKind where
  /-- Trusted certificates only. -/
  | trustStore
  /-- A private key with its certificate chain. -/
  | keyStore
deriving DecidableEq, Repr

def StoreKind.name : StoreKind → String
  | .trustStore => "TrustStore"
  | .keyStore => "KeyStore"

/-- The conversion of PEM material into a key store. -/
structure StoreTransform where
  kind : StoreKind
  /-- Where the certificates are. -/
  cert : String
  /-- Where the private key is. -/
  privateKey : Option String := none
  /-- The key and file name of the store. -/
  store : String
  /-- The key of the store's password. -/
  password : String
  /-- The variable that exposes the password. -/
  passEnv : String
deriving DecidableEq, Repr

/-- One value taken from a resource and the way it reaches the pod. -/
structure Projection where
  /-- The key of the value, in a resource that is read by key. -/
  source : Option String := none
  /-- The path of the value, in any other resource. -/
  path : Option String := none
  /-- The variable that exposes the value. -/
  env : Option String := none
  /-- The file that holds the value. -/
  mount : Option String := none
  /-- Whether the variable holds the value itself instead of a reference. -/
  literal : Bool := false
  transform : Option StoreTransform := none
deriving DecidableEq, Repr

/-- A resource of the cluster and the values to take from it. -/
structure SourceRef where
  group : String := ""
  version : String
  kind : String
  name : String
  projections : List Projection := []
deriving DecidableEq, Repr

/-- A well-known backing service with its own resource and options. -/
structure Preset where
  service : String
  resource : String
  settings : Dict String := {}
deriving DecidableEq

/-- A declared binding to one backing service. -/
structure Binding where
  name : String
  sources : List SourceRef := []
  /-- Text to append to the configuration. -/
  conf : String := ""
  preset : Option Preset := none
deriving DecidableEq

/-- What is asked of an instance. -/
structure InstanceSpec where
  image : String := "nuxeo:latest"
  replicas : Int32 := 1
  templates : List String := []
  bindings : List Binding := []
deriving DecidableEq

/-- A declared instance. -/
structure Instance where
  metadata : Object.Meta
  spec : InstanceSpec
deriving DecidableEq

def Instance.name (i : Instance) : String := i.metadata.displayName

end ServiceBinding
