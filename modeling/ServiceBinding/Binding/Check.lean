import ServiceBinding.Binding.Catalog
import ServiceBinding.Binding.Path
import ServiceBinding.Instance.Validation

/-!
What a binding must satisfy before its sources are read. Every source gets one way of addressing
values, which all its projections must use; names that reach the cluster are checked here, and so
is every path, so that reading can only fail on what the sources hold.
-/
namespace ServiceBinding.Binding

/-- Whether a text can be a key of a secret. -/
def isSecretKey (key : String) : Bool := !key.isEmpty && key.toList.all Path.isKeyChar

/-- A text that can be a key of a secret. -/
def checkSecretKey (key : String) : Result Unit :=
  if isSecretKey key then .ok ()
  else .error (.unattributed ("'" ++ key ++ "' is not a valid secret key"))

/-- A text that can be the name of a file in the directory of a binding. -/
def checkFileName (name : String) : Result Unit := do
  checkSecretKey name
  if name = "." ∨ name = ".." then
    throw (.unattributed ("'" ++ name ++ "' is not a valid file name"))

/-- The texts by which a projection addresses values. -/
def selectors (p : Projection) : List String :=
  p.source.toList ++ p.path.toList ++
    match p.transform with
    | some t => t.cert :: t.privateKey.toList
    | none => []

/-- A projection whose names can be used. -/
def checkProjection (p : Projection) : Result Unit := do
  p.validate
  match p.mount with
  | some file => checkFileName file
  | none => pure ()
  match p.transform with
  | some t =>
    checkFileName t.store
    checkSecretKey t.password
  | none => pure ()

/-- A path that can be read and gives a key. -/
def checkSelector (selector : String) : Result Unit := do
  let path ← Path.parse selector
  let _ ← path.secretKey

/-- A source whose projections fit the way its values are addressed. -/
def checkSource (catalog : Catalog) (s : SourceRef) : Result Access := do
  if s.name.isEmpty then throw (.unattributed (s.kind ++ " reference has no name"))
  let access ← catalog.resolve s.group s.version s.kind
  let label := s.kind ++ " " ++ s.name
  let byKey := s.projections.any (·.source.isSome)
  let byPath := s.projections.any (·.path.isSome)
  if byKey && byPath then
    throw (.unattributed (label ++ " mixes key (from) and path projections"))
  s.projections.forM checkProjection
  match access with
  | .keyed _ =>
    if byPath then
      throw (.unattributed (label ++ " is read by key, use from instead of path"))
  | .structured _ =>
    if byKey then
      throw (.unattributed (label ++ " is read by path expression, use path instead of from"))
    s.projections.forM fun p => (selectors p).forM checkSelector
  return access

/-- The sources of a binding, each with the way its values are addressed. -/
def check (catalog : Catalog) (b : Binding) : Result (List (SourceRef × Access)) :=
  b.sources.mapM fun s => do return (s, ← checkSource catalog s)

end ServiceBinding.Binding
