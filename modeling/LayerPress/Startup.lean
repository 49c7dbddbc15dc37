import LayerPress.Admin.Router
import LayerPress.Settings.Basic

/-!
# Starting the service

The service starts a pool of workers and then a router, and crashes if either cannot be built
from the settings: a pool holds only so many permits, and a list of allowed origins may not hold
the wildcard.
-/

namespace LayerPress

/-- Why the service crashes at its start. -/
inductive StartFault where
  | tooManyPermits
  | wildcardOrigin
  deriving DecidableEq, Repr

/-- The most permits a pool holds. -/
def maxPermits : Nat := Nat.pow 2 61 - 1

/-- The number of permits in a pool for some workers. -/
def startPool (workers : Nat) : Except StartFault Nat :=
  if maxPermits < max workers 1 then .error .tooManyPermits else .ok (max workers 1)

/-- The origins a router compares with. -/
def startRouter (origins : List String) : Except StartFault (List String) :=
  let usable := Admin.usableOrigins origins
  if usable.contains "*" then .error .wildcardOrigin else .ok usable

/-- The permits and the origins of a service that has started. -/
def Settings.start (s : Settings) : Except StartFault (Nat × List String) := do
  let permits ← startPool s.workers
  let origins ← startRouter s.corsOrigins
  return (permits, origins)

end LayerPress
