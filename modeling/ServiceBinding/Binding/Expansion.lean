import ServiceBinding.Binding.Preset

/-!
Presets written out as ordinary bindings: the secrets that a backing service publishes, the values
to take from them, and the settings that point the server at the service. What a user wrote by
hand follows what is generated.
-/
namespace ServiceBinding.Binding

/-! ### Settings -/

/-- One line of configuration. -/
structure Setting where
  name : String
  value : String
deriving DecidableEq, Repr

/-- A setting on its line. -/
def Setting.line (s : Setting) : String := s.name ++ "=" ++ s.value

/-- Texts on lines of their own. -/
def joinLines (l : List String) : String := "\n".intercalate l

/-- The text that the server replaces by the value of a variable. -/
def placeholder (name : String) : String := "$\x7benv:" ++ name ++ "\x7d"

/-! ### Sources -/

/-- A secret and the values to take from it. -/
def secretSource (name : String) (projections : List Projection) : SourceRef :=
  { version := "v1", kind := "Secret", name := name, projections := projections }

/-- A key exposed as a variable. -/
def variableFrom (key env : String) : Projection := { source := some key, env := some env }

/-- The word for a flavour of stores in file names. -/
def storeWord : StoreKind → String
  | .trustStore => "truststore"
  | .keyStore => "keystore"

/-- The file name of a generated store. -/
def storeFile (stem : String) (kind : StoreKind) : String :=
  stem ++ "." ++ storeWord kind ++ ".jks"

/-- A key store made from keys of a secret. -/
def generatedStore (kind : StoreKind) (cert : String) (privateKey : Option String)
    (stem passEnv : String) : Projection :=
  { transform := some {
      kind := kind
      cert := cert
      privateKey := privateKey
      store := storeFile stem kind
      password := stem ++ "." ++ storeWord kind ++ ".pass"
      passEnv := passEnv } }

/-! ### Services -/

/-- What a preset stands for. -/
structure Generated where
  sources : List SourceRef
  settings : List Setting
  templates : List String := []

/-- The settings that name a store, its password and its format. -/
def storeSettings (location password type file passEnv : String) : List Setting :=
  [⟨location, file⟩, ⟨password, placeholder passEnv⟩, ⟨type, "JKS"⟩]

/-- Elasticsearch: the user's password, and the certificates of an encrypted endpoint. -/
def generateEck (resource dir : String) (o : Options) : Generated :=
  let user := (o.get? "user").getD "elastic"
  let tls := (o.get? "tls").getD "true" == "true"
  let scheme := if tls then "https" else "http"
  { sources :=
      [secretSource (resource ++ "-es-elastic-user") [variableFrom user "ELASTIC_PASSWORD"]] ++
      (if tls then
        [secretSource (resource ++ "-es-http-certs-public")
          [generatedStore .trustStore "tls.crt" none "elastic" "ELASTIC_TS_PASS"]]
      else [])
    settings :=
      [⟨"elasticsearch.client", "RestClient"⟩,
        ⟨"elasticsearch.addressList", scheme ++ "://" ++ resource ++ "-es-http:9200"⟩,
        ⟨"elasticsearch.restClient.username", user⟩,
        ⟨"elasticsearch.restClient.password", placeholder "ELASTIC_PASSWORD"⟩] ++
      (if tls then
        storeSettings "elasticsearch.restClient.truststore.path"
          "elasticsearch.restClient.truststore.password"
          "elasticsearch.restClient.truststore.type"
          (dir ++ "/" ++ storeFile "elastic" .trustStore) "ELASTIC_TS_PASS"
      else []) }

/-- Kafka: a password or a client certificate for the user, and the certificates of an encrypted
listener. -/
def generateStrimzi (resource dir : String) (o : Options) : Generated :=
  let auth := (o.get? "auth").getD "anonymous"
  let scram := auth == "scram-sha-512"
  let client := auth == "tls"
  let listener := (o.get? "listener").getD (if client then "tls" else "plain")
  let tls := listener == "tls"
  let user := (o.get? "user").getD ""
  let port := if tls then "9093" else "9092"
  let protocol :=
    match scram, tls with
    | true, true => "SASL_SSL"
    | true, false => "SASL_PLAINTEXT"
    | false, true => "SSL"
    | false, false => "PLAINTEXT"
  { sources :=
      (if scram then [secretSource user [variableFrom "password" "KAFKA_PASSWORD"]] else []) ++
      (if tls then
        [secretSource (resource ++ "-cluster-ca-cert")
          [generatedStore .trustStore "ca.crt" none "kafka" "KAFKA_TS_PASS"]]
      else []) ++
      (if client then
        [secretSource user
          [generatedStore .keyStore "user.crt" (some "user.key") "kafka" "KAFKA_KS_PASS"]]
      else [])
    settings :=
      [⟨"kafka.enabled", "true"⟩,
        ⟨"kafka.bootstrap.servers", resource ++ "-kafka-bootstrap:" ++ port⟩,
        ⟨"kafka.security.protocol", protocol⟩] ++
      (if scram then
        [⟨"kafka.sasl.mechanism", "SCRAM-SHA-512"⟩,
          ⟨"kafka.sasl.jaas.config",
            "org.apache.kafka.common.security.scram.ScramLoginModule required username=\"" ++
              user ++ "\" password=\"" ++ placeholder "KAFKA_PASSWORD" ++ "\";"⟩]
      else []) ++
      (if tls then
        storeSettings "kafka.ssl.truststore.location" "kafka.ssl.truststore.password"
          "kafka.ssl.truststore.type" (dir ++ "/" ++ storeFile "kafka" .trustStore)
          "KAFKA_TS_PASS"
      else []) ++
      (if client then
        storeSettings "kafka.ssl.keystore.location" "kafka.ssl.keystore.password"
          "kafka.ssl.keystore.type" (dir ++ "/" ++ storeFile "kafka" .keyStore) "KAFKA_KS_PASS"
      else []) }

/-- PostgreSQL: the user's password. -/
def generateCrunchy (resource : String) (o : Options) : Generated :=
  let user := (o.get? "user").getD "postgres"
  { sources :=
      [secretSource (resource ++ "-" ++ user ++ "-secret")
        [variableFrom "password" "POSTGRES_PASSWORD"]]
    settings :=
      [⟨"nuxeo.db.host", resource⟩,
        ⟨"nuxeo.db.port", "5432"⟩,
        ⟨"nuxeo.db.user", user⟩,
        ⟨"nuxeo.db.password", placeholder "POSTGRES_PASSWORD"⟩]
    templates := ["postgresql"] }

/-- What a preset with these options stands for, its files being mounted at `dir`. -/
def Options.generate (o : Options) (resource dir : String) : Generated :=
  match o.service with
  | .eck => generateEck resource dir o
  | .strimzi => generateStrimzi resource dir o
  | .crunchy => generateCrunchy resource o

/-! ### Bindings -/

/-- The directory that holds the files of a binding. -/
def directory (mountBase binding : String) : String :=
  Text.trimEndSlashes mountBase ++ "/" ++ binding

/-- A binding without a preset, and the templates that its service needs. -/
structure Expansion where
  binding : Binding
  templates : List String
deriving DecidableEq

/-- A binding whose preset, if it has one, is written out. -/
def expand (b : Binding) (mountBase : String) : Result Expansion :=
  match b.preset with
  | none => .ok ⟨b, []⟩
  | some preset =>
    if Text.isBlankText preset.resource then
      .error (.unattributed "preconfigured binding needs the service resource name")
    else do
      let options ← Options.read preset.service preset.settings
      let generated := options.generate preset.resource (directory mountBase b.name)
      let parts := [joinLines (generated.settings.map (·.line)), Text.trim b.conf]
      return {
        binding := {
          name := b.name
          sources := generated.sources ++ b.sources
          conf := joinLines (parts.filter (!·.isEmpty)) }
        templates := generated.templates }

end ServiceBinding.Binding
