import ServiceBinding.Error
import ServiceBinding.Instance.Basic
import ServiceBinding.Text.Blank
import ServiceBinding.Text.Lowercase

/-!
The backing services with presets, and their options. Names of options and values of a fixed
choice are compared without regard to case and kept in lower case; free-form values are kept as
they are and must not be blank.
-/
namespace ServiceBinding.Binding

/-- A backing service with a preset. -/
inductive Backing where
  | eck
  | strimzi
  | crunchy
deriving DecidableEq, Repr

def Backing.name : Backing → String
  | .eck => "ECK"
  | .strimzi => "Strimzi"
  | .crunchy => "Crunchy"

/-- The backing service of a name in any case. -/
def Backing.ofName (name : String) : Result Backing :=
  let lower := Text.lowercase name
  if lower = "eck" then .ok .eck
  else if lower = "strimzi" then .ok .strimzi
  else if lower = "crunchy" then .ok .crunchy
  else
    .error (.unattributed ("unknown preconfigured service type '" ++ name ++
      "', expected one of: ECK, Strimzi, Crunchy"))

/-! ### Options -/

/-- The values an option takes. -/
inductive OptionRule where
  | freeForm
  | oneOf (allowed : List String)
deriving DecidableEq, Repr

/-- The options of a backing service. -/
def Backing.rules : Backing → List (String × OptionRule)
  | .eck => [("user", .freeForm), ("tls", .oneOf ["true", "false"])]
  | .strimzi => [
      ("auth", .oneOf ["anonymous", "scram-sha-512", "tls"]),
      ("user", .freeForm),
      ("listener", .oneOf ["plain", "tls"])]
  | .crunchy => [("user", .freeForm)]

/-- Texts with commas between them. -/
def commas (l : List String) : String := ", ".intercalate l

/-- The value of an option in its normal form. -/
def OptionRule.normalize (rule : OptionRule) (service : Backing) (name value : String) :
    Result String :=
  match rule with
  | .freeForm =>
    if Text.isBlankText value then
      .error (.unattributed
        ("option '" ++ name ++ "' for " ++ service.name ++ " must not be empty"))
    else .ok value
  | .oneOf allowed =>
    let lower := Text.lowercase value
    if allowed.contains lower then .ok lower
    else
      .error (.unattributed ("invalid value '" ++ value ++ "' for option '" ++ name ++ "' of " ++
        service.name ++ ", expected one of: " ++ commas allowed))

/-- The options of a preset in normal form. -/
structure Options where
  service : Backing
  values : Dict String
deriving DecidableEq

def Options.get? (o : Options) (name : String) : Option String := o.values.get? name

/-- Adds one setting to the options read so far. -/
def addOption (service : Backing) (values : Dict String) (setting : String × String) :
    Result (Dict String) := do
  let name := Text.lowercase setting.1
  match service.rules.find? (·.1 == name) with
  | none =>
    throw (.unattributed ("unknown option '" ++ setting.1 ++ "' for " ++ service.name ++
      ", expected one of: " ++ commas (service.rules.map (·.1))))
  | some rule =>
    let value ← rule.2.normalize service name setting.2
    if values.contains name then
      throw (.unattributed
        ("option '" ++ name ++ "' for " ++ service.name ++ " is given more than once"))
    else return values.insert name value

/-- The rules between options: anonymous access has no user and every other access has one, and
access by certificate needs the encrypted listener. -/
def Options.check (o : Options) : Result Unit :=
  match o.service with
  | .strimzi =>
    let auth := (o.get? "auth").getD "anonymous"
    let user := o.get? "user"
    if auth = "anonymous" then
      if user.isSome then
        .error (.unattributed "Strimzi anonymous auth does not take a user")
      else .ok ()
    else if user.isNone then
      .error (.unattributed ("Strimzi " ++ auth ++ " auth requires a user"))
    else if auth = "tls" ∧ o.get? "listener" = some "plain" then
      .error (.unattributed "Strimzi tls auth requires the tls listener")
    else .ok ()
  | _ => .ok ()

/-- Reads the options of a preset, in the order of their names as they were given. -/
def Options.read (service : String) (settings : Dict String) : Result Options := do
  let service ← Backing.ofName service
  let values ← settings.entries.foldlM (addOption service) {}
  let options : Options := ⟨service, values⟩
  options.check
  return options

end ServiceBinding.Binding
