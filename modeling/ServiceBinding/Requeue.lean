import ServiceBinding.Settings

/-!
When a resource is looked at again. A pass that went through comes back after the regular
interval, and so does one that an edit has to mend; a failure that may go away by itself is tried
again soon.
-/
namespace ServiceBinding.Requeue

/-- The seconds before a failure that may go away by itself is tried again. -/
def soon : Nat := 5

/-- The seconds until the pass after one that went through. -/
def afterSuccess (s : Settings) : Nat := s.requeueSecs

/-- The seconds until the pass after one that failed. -/
def afterFailure (s : Settings) (e : Error) : Nat :=
  if e.isRetryable then soon else s.requeueSecs

end ServiceBinding.Requeue
