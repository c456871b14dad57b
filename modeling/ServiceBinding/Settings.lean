import ServiceBinding.Error
import ServiceBinding.Text.Numeral
import ServiceBinding.Text.Search

/-!
The controller's settings: three flags of the command line, each with an environment variable to
fall back on and a default behind that. Arguments are read from left to right; the value of a flag
is looked at only once it is known that nothing else follows it.
-/
namespace ServiceBinding

/-- The settings of a controller. -/
structure Settings where
  /-- The only namespace to watch, if not all of them. -/
  watchNamespace : Option String := none
  /-- The directory under which the files of bindings are mounted. -/
  mountBase : String := "/etc/nuxeo/binding"
  /-- The seconds between two passes over a resource. -/
  requeueSecs : Nat := 300
deriving DecidableEq, Repr

namespace Settings

/-- Settings with which a controller cannot run are refused. -/
def validate (s : Settings) : Result Unit :=
  if !Text.startsWith s.mountBase "/" then
    .error (.configuration "binding-mount-base"
      ("must be an absolute path, got '" ++ s.mountBase ++ "'"))
  else if s.requeueSecs = 0 then
    .error (.configuration "requeue-secs" "must be greater than zero")
  else if s.watchNamespace = some "" then
    .error (.configuration "watch-namespace" "must not be empty when set")
  else .ok ()

/-! ### Flags -/

/-- The flags that set something. -/
inductive Flag where
  | watchNamespace
  | mountBase
  | requeueSecs
deriving DecidableEq, Repr

/-- The name of a flag, after its two dashes. -/
def Flag.name : Flag → String
  | .watchNamespace => "watch-namespace"
  | .mountBase => "binding-mount-base"
  | .requeueSecs => "requeue-secs"

/-- The variable that stands in for a flag. -/
def Flag.variable : Flag → String
  | .watchNamespace => "NUXEO_WATCH_NAMESPACE"
  | .mountBase => "NUXEO_BINDING_MOUNT_BASE"
  | .requeueSecs => "NUXEO_REQUEUE_SECS"

def Flag.all : List Flag := [.watchNamespace, .mountBase, .requeueSecs]

def Flag.ofName? (name : String) : Option Flag := Flag.all.find? (·.name == name)

/-- Why arguments give no settings. -/
inductive UsageError where
  | unknownArgument
  /-- A flag without a value. -/
  | missingValue
  /-- A value that is no number. -/
  | invalidNumber
  /-- A flag given twice. -/
  | repeatedFlag
  /-- A value for a flag that takes none. -/
  | unexpectedValue
  /-- The arguments ask for help. -/
  | help
deriving DecidableEq, Repr

/-- What has been given so far. -/
structure Given where
  watchNamespace : Option String := none
  mountBase : Option String := none
  requeueSecs : Option Nat := none
deriving DecidableEq, Repr

def Given.has (g : Given) : Flag → Bool
  | .watchNamespace => g.watchNamespace.isSome
  | .mountBase => g.mountBase.isSome
  | .requeueSecs => g.requeueSecs.isSome

def Given.assign (g : Given) (flag : Flag) (value : String) : Except UsageError Given :=
  match flag with
  | .watchNamespace => .ok { g with watchNamespace := some value }
  | .mountBase => .ok { g with mountBase := some value }
  | .requeueSecs =>
    match Text.word64? value with
    | some n => .ok { g with requeueSecs := some n }
    | none => .error .invalidNumber

/-- Gives a flag its value, which it must not have yet. -/
def Given.assignOnce (g : Given) (flag : Flag) (value : String) : Except UsageError Given :=
  if g.has flag then .error .repeatedFlag else g.assign flag value

/-- A flag whose value is not settled yet, and the value if there is one. -/
abbrev Waiting := Option (Flag × Option String)

/-- Settles a waiting flag. -/
def Given.settle (g : Given) : Waiting → Except UsageError Given
  | none => .ok g
  | some (_, none) => .error .missingValue
  | some (flag, some value) => g.assignOnce flag value

/-- The name after two dashes, and the value after the first equals sign. -/
def longFlag? (arg : String) : Option (String × Option String) :=
  (Text.after? ['-', '-'] arg.toList).map fun body =>
    match Text.cut? ['='] body with
    | some (name, value) => (String.ofList name, some (String.ofList value))
    | none => (String.ofList body, none)

/-- The letters after a single dash; a dash alone has none. -/
def shortFlags? (arg : String) : Option (List Char) :=
  match arg.toList with
  | '-' :: c :: rest => if c = '-' then none else some (c :: rest)
  | _ => none

/-- Reads arguments after those given so far. -/
def readArguments (g : Given) (waiting : Waiting) : List String → Except UsageError Given
  | [] => g.settle waiting
  | "--" :: rest => if rest.isEmpty then g.settle waiting else .error .unknownArgument
  | arg :: rest =>
    match longFlag? arg with
    | some (name, value) =>
      match Flag.ofName? name with
      | some flag => do
        let g ← g.settle waiting
        match value with
        | some value => readArguments (← g.assignOnce flag value) none rest
        | none => readArguments g (some (flag, none)) rest
      | none =>
        if name = "help" then
          if value.isSome then .error .unexpectedValue
          else do
            let _ ← g.settle waiting
            throw .help
        else .error .unknownArgument
    | none =>
      match shortFlags? arg, waiting with
      | some letters, _ =>
        if letters.head? = some 'h' then do
          let _ ← g.settle waiting
          throw .help
        else .error .unknownArgument
      | none, some (flag, none) => readArguments g (some (flag, some arg)) rest
      | none, _ => .error .unknownArgument

/-- Falls back on the environment for the flags that have not been given. -/
def readEnvironment (env : String → Option String) (g : Given) : Except UsageError Given :=
  Flag.all.foldlM (fun g flag =>
    if g.has flag then .ok g
    else
      match env flag.variable with
      | some value => g.assign flag value
      | none => .ok g) g

def read (args : List String) (env : String → Option String) : Except UsageError Settings := do
  let g ← readEnvironment env (← readArguments {} none args)
  let standard : Settings := {}
  return {
    watchNamespace := g.watchNamespace
    mountBase := g.mountBase.getD standard.mountBase
    requeueSecs := g.requeueSecs.getD standard.requeueSecs }

end Settings

end ServiceBinding
