import ServiceBinding.Instance.Form

/-!
The manifest that teaches a cluster the kind of instances: its names, the columns of its listings,
and the schema of its specification. The schema says of every member what the readings of
`Instance.Form` accept: which members must be there, which may be null, and which have a default
that is written out.
-/
namespace ServiceBinding.Manifest

/-! ### Schemas -/

/-- What a schema says, by keyword. -/
abbrev Schema := List (String × Json)

/-- A member of a record: its name, its schema, and whether it must be there. -/
structure Member where
  name : String
  schema : Schema
  required : Bool

def primitive (name : String) : Schema := [("type", .str name)]

def text : Schema := primitive "string"

def int32 : Schema := primitive "integer" ++ [("format", .str "int32")]

def choice (names : List String) : Schema := text ++ [("enum", .texts names)]

def list (item : Schema) : Schema := primitive "array" ++ [("items", .ofMembers item)]

def dict (value : Schema) : Schema :=
  primitive "object" ++ [("additionalProperties", .ofMembers value)]

/-- The schema of records, with the names of the members that must be there in order. -/
def record (members : List Member) : Schema :=
  let required := (Dict.ofList ((members.filter (·.required)).map fun m => (m.name, ()))).keys
  primitive "object" ++
    [("properties", .ofMembers (members.map fun m => (m.name, .ofMembers m.schema)))] ++
    (if required.isEmpty then [] else [("required", .texts required)])

def described (description : String) (s : Schema) : Schema :=
  s ++ [("description", .str description)]

def needed (name description : String) (s : Schema) : Member :=
  ⟨name, described description s, true⟩

def optional (name description : String) (s : Schema) : Member :=
  ⟨name, described description s, false⟩

/-- A member that may be left out or null. -/
def nullable (name description : String) (s : Schema) : Member :=
  ⟨name, described description s ++ [("nullable", .bool true)], false⟩

/-- A member that has a default. -/
def defaulted (name description : String) (s : Schema) (value : Json) : Member :=
  ⟨name, described description s ++ [("default", value)], false⟩

/-! ### Declarations -/

def transform : Schema :=
  record [
    needed "type" "Store flavor" (choice [StoreKind.trustStore.name, StoreKind.keyStore.name]),
    needed "cert" "Where the PEM certificate(s) live" text,
    nullable "privateKey" "Where the PEM private key lives (KeyStore only)" text,
    needed "store" "Secondary secret key and file name of the store" text,
    needed "password" "Secondary secret key holding the store password" text,
    needed "passEnv" "Environment variable exposing the store password" text]

def projection : Schema :=
  described ("One value extracted from a resource and how it reaches the pod\n\n`from` names a key" ++
    " (Secret, ConfigMap), `path` is a path expression (`\x7b.status.endpoint\x7d`) for every" ++
    " other kind. Exactly one of `env`, `mount` and `transform` is set.") <|
  record [
    nullable "from" "Key to read from a key/value resource" text,
    nullable "path" "Path expression to evaluate against any other resource" text,
    nullable "env" "Environment variable to expose the value as" text,
    nullable "mount" "File name under the binding's mount directory" text,
    optional "value" "Bake the resolved value into the env var instead of referencing it"
      (primitive "boolean"),
    nullable "transform" "Convert PEM material into a Java key store" transform]

def source : Schema :=
  described "Reference to one cluster resource plus the values to take from it" <|
  record [
    defaulted "group" "API group, empty for the core group" text (.str ""),
    needed "version" "API version" text,
    needed "kind" "Resource kind" text,
    needed "name" "Resource name, in the Nuxeo resource's namespace" text,
    defaulted "projections" "Values to extract, in order" (list projection) (.arr [])]

def preset : Schema :=
  record [
    needed "type" "Service type, matched case-insensitively" text,
    needed "resource" ("Name of the service's own custom resource (Elasticsearch, Kafka," ++
      " PostgresCluster)") text,
    optional "settings" "Type specific options" (dict text)]

def binding : Schema :=
  described ("A binding between a Nuxeo cluster and one backing service\n\nThe binding name" ++
    " prefixes the mount directory (`<mount-base>/<name>`) and suffixes the secondary secret" ++
    " (`<nuxeo>-secondary-<name>`).") <|
  record [
    needed "name" "Binding name, unique within the Nuxeo resource" text,
    optional "resources" "Cluster resources holding connection material" (list source),
    optional "nuxeoConf" ("Configuration text appended to nuxeo.conf, may contain" ++
      " `$\x7benv:VAR\x7d` placeholders") text,
    nullable "preconfigured" "Shorthand for a well-known backing service, expanded into resources"
      preset]

def spec : Schema :=
  let standard : InstanceSpec := {}
  record [
    defaulted "image" "Container image for the Nuxeo server" text (.str standard.image),
    defaulted "replicas" "Number of Nuxeo pods" int32 (.int32 standard.replicas),
    optional "templates" "Nuxeo templates to enable (NUXEO_TEMPLATES)" (list text),
    optional "backingServices" "Backing services to bind" (list binding)]

/-- The schema of instances. -/
def root : Schema :=
  described "Auto-generated derived type for NuxeoSpec via `CustomResource`" <|
  record [needed "spec" "Specification for a Nuxeo cluster" spec] ++ [("title", .str "Nuxeo")]

/-! ### Manifest -/

/-- A column of listings: its heading, its type, and the path of its values. -/
def column (name type path : String) : Json :=
  .ofMembers [("name", .str name), ("type", .str type), ("jsonPath", .str path)]

/-- The only version of the kind. -/
def version : Json :=
  .ofMembers [
    ("name", .str "v1alpha1"),
    ("served", .bool true),
    ("storage", .bool true),
    ("additionalPrinterColumns", .arr [
      column "Image" "string" ".spec.image",
      column "Replicas" "integer" ".spec.replicas",
      column "Age" "date" ".metadata.creationTimestamp"]),
    ("schema", .ofMembers [("openAPIV3Schema", .ofMembers root)]),
    ("subresources", .obj [])]

def manifest : Json :=
  .ofMembers [
    ("apiVersion", .str "apiextensions.k8s.io/v1"),
    ("kind", .str "CustomResourceDefinition"),
    ("metadata", .ofMembers [("name", .str "nuxeos.appzygy.net")]),
    ("spec", .ofMembers [
      ("group", .str "appzygy.net"),
      ("names", .ofMembers [
        ("categories", .arr []),
        ("kind", .str "Nuxeo"),
        ("plural", .str "nuxeos"),
        ("shortNames", .arr []),
        ("singular", .str "nuxeo")]),
      ("scope", .str "Namespaced"),
      ("versions", .arr [version])])]

end ServiceBinding.Manifest
