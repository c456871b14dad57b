import ServiceBinding.Binding.Check
import ServiceBinding.Binding.Expansion
import ServiceBinding.Binding.Names
import ServiceBinding.Binding.Source
import ServiceBinding.Crypto.Material

/-!
What one binding adds to the cluster, collected before anything is touched: the content of its
secondary secret, the files and the variables. A key of the secret never receives two values. Key
stores and passwords of an earlier pass are kept as long as they hold the material of this one.
-/
namespace ServiceBinding.Binding
open Crypto Object

/-- Everything that a binding adds. -/
structure Plan where
  /-- The name of the secondary secret. -/
  secondary : String
  /-- The content of the secondary secret. -/
  content : Dict Bytes := {}
  /-- The files, by the key of the secret that each is taken from. -/
  items : List Item := []
  env : List EnvVar := []
deriving DecidableEq

namespace Plan

/-! ### Parts -/

/-- Puts a value into the secondary secret. -/
def put (p : Plan) (key : String) (value : Bytes) : Result Plan := do
  checkSecretKey key
  match p.content.get? key with
  | some known =>
    if known = value then return p
    else
      throw (.unattributed
        ("secondary secret key '" ++ key ++ "' would receive two different values"))
  | none => return { p with content := p.content.insert key value }

/-- Shows a key of the secondary secret as a file. -/
def mount (p : Plan) (key file : String) : Plan :=
  { p with items := p.items ++ [{ key := key, path := file }] }

def addVariable (p : Plan) (var : EnvVar) : Plan := { p with env := p.env ++ [var] }

/-- A variable that refers to a key of a secret or config map. -/
def reference (env : String) (kind : KeyedKind) (name key : String) : EnvVar :=
  let ref : KeyRef := { name := name, key := key }
  { name := env
    valueFrom := some (match kind with
      | .secret => { secretKeyRef := some ref }
      | .configMap => { configMapKeyRef := some ref }) }

/-- Shows a key of the secondary secret as a variable. -/
def secondaryVariable (p : Plan) (env key : String) : Plan :=
  p.addVariable (reference env .secret p.secondary key)

/-! ### Key stores -/

/-- The password kept from an earlier pass, or else a new one. -/
def keptPassword (kept : Dict Bytes) (r : Draw) (key : String) : String :=
  (((kept.get? key).bind Bytes.toText?).filter (!·.isEmpty)).getD r.password

/-- The store kept from an earlier pass, if the password opens it and it has the entries
expected. -/
def keptStore? (P : Primitives) (kept : Dict Bytes) (key password : String)
    (expected : List Keystore.Entry) : Option Bytes :=
  (kept.get? key).filter fun store =>
    match Keystore.decode P.digest store password with
    | .ok entries => entries == expected
    | .error _ => false

/-- The entries that a transform of some material gives. -/
def expectedEntries (P : Primitives) (t : StoreTransform) (cert : Bytes) (key : Option Bytes) :
    Result (List Keystore.Entry) :=
  match t.kind, key with
  | .trustStore, _ => (Material.expectedTrust P cert).mapError .certificate
  | .keyStore, some key => (Material.expectedKey P cert key).mapError .certificate
  | .keyStore, none =>
    .error (.unattributed ("KeyStore transform " ++ t.store ++ " requires privateKey"))

/-- A new store of some material. -/
def newStore (P : Primitives) (r : Draw) (cert : Bytes) (key : Option Bytes)
    (password : String) : Result Bytes :=
  (match key with
    | some key => Material.keyStore P r cert key password
    | none => Material.trustStore P r cert password).mapError .certificate

/-- Adds a key store and its password. -/
def addStore (P : Primitives) (kept : Dict Bytes) (r : Draw) (source : Source) (p : Plan)
    (t : StoreTransform) : Result Plan := do
  let cert ← source.lookup t.cert
  let key ← t.privateKey.mapM source.lookup
  let expected ← expectedEntries P t cert key
  let password := keptPassword kept r t.password
  let store ← match keptStore? P kept t.store password expected with
    | some store => pure store
    | none => newStore P r cert key password
  let p ← p.put t.store store
  let p ← p.put t.password (Bytes.ofText password)
  return (p.mount t.store t.store).secondaryVariable t.passEnv t.password

/-! ### Projections -/

/-- Adds a value as a variable. -/
def addEnv (source : Source) (p : Plan) (selector env : String) (literal : Bool)
    (value : Bytes) : Result Plan :=
  if literal then
    match value.toText? with
    | some text => return p.addVariable (.plain env text)
    | none =>
      throw (.unattributed ("value for env " ++ env ++ " is not valid UTF-8 text"))
  else
    match source with
    | .keyed kind name _ => return p.addVariable (reference env kind name selector)
    | .structured .. => do
      let key ← source.derivedKey selector
      return (← p.put key value).secondaryVariable env key

/-- Adds a value as a file. -/
def addFile (source : Source) (p : Plan) (selector file : String) (value : Bytes) :
    Result Plan := do
  let key ← match source with
    | .keyed .. => pure file
    | .structured .. => source.derivedKey selector
  return (← p.put key value).mount key file

/-- Adds what a projection asks for. -/
def realize (P : Primitives) (kept : Dict Bytes) (r : Draw) (source : Source) (p : Plan)
    (projection : Projection) : Result Plan := do
  match projection.transform with
  | some t => p.addStore P kept r source t
  | none =>
    match projection.source.or projection.path with
    | none => throw (.unattributed "projection has neither from nor path")
    | some selector =>
      let value ← source.lookup selector
      match projection.env, projection.mount with
      | some env, _ => p.addEnv source selector env projection.literal value
      | none, some file => p.addFile source selector file value
      | none, none =>
        throw (.unattributed "projection must set exactly one of env, mount, transform")

/-- Adds what some projections of a source ask for, the draws counted from `k` on. -/
def realizeAll (P : Primitives) (kept : Dict Bytes) (draws : Nat → Draw) (source : Source) :
    Nat → Plan → List Projection → Result Plan
  | _, p, [] => .ok p
  | k, p, projection :: rest => do
    realizeAll P kept draws source (k + 1) (← p.realize P kept (draws k) source projection) rest

/-! ### The pod -/

/-- The volume that shows one item of the secondary secret. -/
def itemVolume (p : Plan) (binding : String) (item : Item) : Volume :=
  { name := volumeName binding
    projected := some {
      sources := some [{ secret := some { name := p.secondary, items := some [item] } }] } }

/-- The mount of a binding's files. -/
def filesMount (binding mountBase : String) : Mount :=
  { name := volumeName binding
    mountPath := directory mountBase binding
    readOnly := some true }

/-- Adds everything that the server's container is to see. -/
def equip (p : Plan) (binding mountBase : String) (templates : List String) (c : Container) :
    Merged Container :=
  let mounted :=
    if p.items.isEmpty then .done c else Workload.addMount c (filesMount binding mountBase)
  (mounted.andThen fun c => Merged.forEach (Workload.mergeEnv · · none) c p.env).andThen
    fun c => Workload.addTemplates c templates

/-- The pod with everything that the binding adds. -/
def apply (p : Plan) (binding mountBase : String) (templates : List String) (pod : PodSpec) :
    Result PodSpec :=
  ((Merged.forEach (fun pod item => Workload.addVolume pod (p.itemVolume binding item))
    pod p.items).andThen
      fun pod => Workload.inServer pod (p.equip binding mountBase templates)).toResult

end Plan

end ServiceBinding.Binding
