import ServiceBinding.Workload.Desired

/-!
The names of what a binding adds to the cluster: its secondary secret, which holds the values that
are not read from their source directly, and the volume that shows them to the pod.
-/
namespace ServiceBinding.Binding

def secondaryName (owner binding : String) : String := owner ++ "-secondary-" ++ binding

def volumeName (binding : String) : String := "binding-" ++ binding

/-- The label that names the binding of a secondary secret. -/
def bindingLabel : String := "appzygy.net/binding"

/-- The component that secondary secrets are labelled with. -/
def secondaryComponent : String := "binding-secondary"

/-- The selector of all secondary secrets of an instance. -/
def secondarySelector (owner : String) : String :=
  Workload.instanceLabel ++ "=" ++ owner ++ "," ++
    Workload.componentLabel ++ "=" ++ secondaryComponent

end ServiceBinding.Binding
