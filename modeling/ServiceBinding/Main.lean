import ServiceBinding.Instance.Manifest
import ServiceBinding.Json.Writer
import ServiceBinding.Settings

/-!
The command line. It prints the manifest of the kind of instances, or checks the settings of a
controller; the passes themselves run wherever a cluster is at hand.
-/
namespace ServiceBinding

/-- The flag that asks for the manifest. -/
def manifestFlag : String := "--crd"

/-- How the program is called. -/
def usage : String :=
  "Usage: nuxeo-operator [--crd] [--watch-namespace <WATCH_NAMESPACE>]" ++
    " [--binding-mount-base <BINDING_MOUNT_BASE>] [--requeue-secs <REQUEUE_SECS>]"

def Settings.UsageError.message : Settings.UsageError → String
  | .unknownArgument => "unexpected argument found"
  | .missingValue => "a value is required but none was supplied"
  | .invalidNumber => "invalid value for '--requeue-secs'"
  | .repeatedFlag => "the argument cannot be used multiple times"
  | .unexpectedValue => "unexpected value found"
  | .help => usage

end ServiceBinding

open ServiceBinding

/-- Prints the manifest, or checks the settings; a usage error exits with 2 and settings that no
controller can run with exit with 1. -/
def main (args : List String) : IO UInt32 := do
  if args.contains manifestFlag then
    IO.println Manifest.manifest.render
    return 0
  let mut env : List (String × String) := []
  for flag in Settings.Flag.all do
    if let some value ← IO.getEnv flag.variable then env := (flag.variable, value) :: env
  match Settings.read args (fun name => List.lookup name env) with
  | .error .help =>
    IO.println usage
    return 0
  | .error e =>
    IO.eprintln ("error: " ++ e.message)
    return 2
  | .ok settings =>
    match settings.validate with
    | .error e =>
      IO.eprintln ("Error: Invalid controller settings: " ++ e.message)
      return 1
    | .ok () =>
      IO.eprintln "Error: Failed to create Kubernetes client"
      return 1
