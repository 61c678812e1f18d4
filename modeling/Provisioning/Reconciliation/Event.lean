import Provisioning.Effect
import Provisioning.Failure
import Provisioning.Reconciliation.Result
set_option autoImplicit false

/-!
# Events

Every recorded result is offered to two side channels: the audit log and the notifications.
-/

namespace Provisioning.Reconciliation

/-- A result as the side channels see it. -/
structure Event where
  /-- The sync task that produced the result. -/
  task : String
  /-- The resource that is being reconciled. -/
  resource : String
  result : Result
  deriving DecidableEq, Inhabited

/-- A side channel. -/
abbrev Sink (σ : Type) : Type := Event → Effect σ Failure Unit

/-- The sink that drops every event. -/
def Sink.drop {σ : Type} : Sink σ := fun _ => Effect.ok ()

end Provisioning.Reconciliation
