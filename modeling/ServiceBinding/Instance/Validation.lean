import ServiceBinding.Error
import ServiceBinding.Instance.Basic
import ServiceBinding.Text.Blank

/-!
What a declaration must satisfy before anything is read from the cluster. A specification is
checked as a whole; the content of a binding is checked projection by projection, so that one
broken binding does not stop the others.
-/
namespace ServiceBinding

/-! ### Projections -/

/-- What a transform needs before its material is read. -/
def StoreTransform.validate (t : StoreTransform) : Result Unit :=
  let missing (member : String) : Result Unit :=
    .error (.unattributed (t.kind.name ++ " transform " ++ t.store ++ " requires " ++ member))
  if t.cert.isEmpty then missing "cert"
  else if t.store.isEmpty then missing "store"
  else if t.password.isEmpty then missing "password"
  else if t.passEnv.isEmpty then missing "passEnv"
  else if t.store = t.password then
    .error (.unattributed
      ("transform " ++ t.store ++ " uses the same key for store and password"))
  else
    match t.kind, t.privateKey with
    | .keyStore, none => missing "privateKey"
    | .trustStore, some _ =>
      .error (.unattributed
        ("TrustStore transform " ++ t.store ++ " does not take a privateKey"))
    | _, _ => .ok ()

/-- The label of a projection in messages. -/
def Projection.describe (p : Projection) : String :=
  match p.env, p.mount, p.transform with
  | some env, _, _ => "env " ++ env
  | none, some mount, _ => "mount " ++ mount
  | none, none, some transform => "transform " ++ transform.store
  | none, none, none => "(empty)"

/-- The number of ways in which a projection reaches the pod. -/
def Projection.realizations (p : Projection) : Nat :=
  p.env.isSome.toNat + p.mount.isSome.toNat + p.transform.isSome.toNat

/-- A projection reaches the pod in one way and takes its value from one place. -/
def Projection.validate (p : Projection) : Result Unit :=
  let refuse (before after : String) : Result Unit :=
    .error (.unattributed (before ++ after))
  let label := "projection " ++ p.describe
  if p.realizations ≠ 1 then refuse label " must set exactly one of env, mount, transform"
  else if p.literal && p.env.isNone then refuse label " sets value without env"
  else
    match p.transform with
    | some transform =>
      if p.source.isSome || p.path.isSome then
        refuse ("transform projection " ++ transform.store)
          " takes its inputs from cert/privateKey, not from/path"
      else transform.validate
    | none =>
      if p.source.isSome == p.path.isSome then
        refuse label " must set exactly one of from, path"
      else .ok ()

/-! ### Specifications -/

/-- The longest name of a binding: with `binding-` before it, it must fit a label. -/
def maxBindingName : Nat := 55

/-- Lower-case ASCII letters, digits and inner hyphens, as many as a binding name may have. -/
def isBindingName (name : String) : Bool :=
  !name.isEmpty && name.utf8ByteSize ≤ maxBindingName &&
    name.toList.all (fun c => ('a' ≤ c && c ≤ 'z') || ('0' ≤ c && c ≤ '9') || c == '-') &&
    name.toList.head? != some '-' && name.toList.getLast? != some '-'

/-- The names of bindings are well-formed, and each follows none that is the same. -/
def validateNames (seen : List String) : List Binding → Result Unit
  | [] => .ok ()
  | b :: rest =>
    if !isBindingName b.name then
      .error (.configuration "spec" ("backing service name '" ++ b.name ++
        "' must be a lowercase DNS label of at most " ++ toString maxBindingName ++
        " characters"))
    else if seen.contains b.name then
      .error (.configuration "spec" ("duplicate backing service name '" ++ b.name ++ "'"))
    else validateNames (b.name :: seen) rest

/-- What a specification must satisfy whatever the cluster holds. -/
def InstanceSpec.validate (s : InstanceSpec) : Result Unit :=
  if Text.isBlankText s.image then .error (.configuration "spec" "image must not be empty")
  else if s.replicas < 0 then
    .error (.configuration "spec"
      ("replicas must be >= 0, got " ++ toString s.replicas.toInt))
  else validateNames [] s.bindings

end ServiceBinding
