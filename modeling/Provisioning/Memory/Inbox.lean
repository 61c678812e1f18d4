import Provisioning.Reconciliation.Event
set_option autoImplicit false

/-!
# A side channel in memory

Keeps every event that it receives.
-/

namespace Provisioning.Memory

open Reconciliation

/-- The state of a side channel in memory. -/
structure Inbox where
  events : List Event := []
  /-- Whether every event is rejected. -/
  unavailable : Bool := false
  deriving DecidableEq, Inhabited

/-- The side channel in memory. -/
def Inbox.sink : Sink Inbox := fun event inbox =>
  if inbox.unavailable then (.error ⟨["sink unavailable"]⟩, inbox)
  else (.ok (), { inbox with events := inbox.events ++ [event] })

end Provisioning.Memory
