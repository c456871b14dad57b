import ServiceBinding.Error

/-!
What became of the bindings of an instance in one pass: which were applied, which failed and why,
which secrets were cleaned up, and the configuration text of those applied.
-/
namespace ServiceBinding.Binding

/-- The result of projecting every binding of an instance. -/
structure Report where
  /-- The bindings applied, in declaration order. -/
  applied : List String := []
  /-- The bindings that failed, with their errors. -/
  failed : List (String × Error) := []
  /-- The secrets deleted because their binding is no longer declared. -/
  pruned : List String := []
  conf : String := ""
deriving DecidableEq, Repr

namespace Report

/-- Whether a failure may go away by itself. -/
def isTransient (failure : String × Error) : Bool := failure.2.isRetryable

/-- The first failure that may go away by itself, and the report without it. -/
def takeTransient (r : Report) : Option Error × Report :=
  match r.failed.find? isTransient with
  | none => (none, r)
  | some failure => (some failure.2, { r with failed := r.failed.eraseP isTransient })

/-- The error to report for the pass: a failure that may go away by itself before any other. -/
def error? (r : Report) : Option Error :=
  ((r.failed.find? isTransient).or r.failed.head?).map (·.2)

end Report

end ServiceBinding.Binding
