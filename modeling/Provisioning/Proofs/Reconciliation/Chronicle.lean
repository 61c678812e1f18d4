import Provisioning.Proofs.Reconciliation.Accounting
import Provisioning.Proofs.Reconciliation.Twin
set_option autoImplicit false

/-!
# The chronicle of a run

What a run does to the systems around it can be written down while it happens: requests with their answers, probes
and writes, audited and notified events, and stored tokens.  The chronicle is what the twin of its session writes.
-/

namespace Provisioning

open Reconciliation

variable {σ : Type}

namespace Reconciliation

/-- Something that a run does to a system around it. -/
inductive Entry where
  /-- A request to the workflow, with its answer. -/
  | replied (reply : Workflow.Reply)
  /-- A probe or a write. -/
  | called (call : RemoteCall)
  | audited (event : Event)
  | notified (event : Event)
  | stored (task : String) (token : SyncToken)

/-- Whether something was requested or called. -/
def Entry.isDeed : Entry → Bool
  | .replied _ | .called _ => true
  | .audited _ | .notified _ | .stored .. => false

/-- The observer who keeps a chronicle. -/
def Entry.observer : Observer Entry where
  requested := some fun request answer => .replied ⟨request, answer⟩
  called := some .called
  audited := some .audited
  notified := some .notified
  stored := some .stored

/-- The session with a chronicle beside its world. -/
abbrev Session.chronicled (session : Session σ) : Session (σ × List Entry) := session.twin Entry.observer

theorem Session.hooks_chronicled (session : Session σ) :
    session.chronicled.engine.hooks = session.engine.hooks.map (Hooks.beside session.resource.connector) :=
  Hooks.twins_of_unnoted rfl rfl _ _ _

/-- The requests and calls of the chronicle. -/
def RunState.deeds (s : RunState (σ × List Entry)) : List Entry := s.world.2.filter Entry.isDeed

/-- The chronicle of a run.  A task that does not name a mapped resource leaves none. -/
def Engine.chronicle (engine : Engine σ) (task : SyncTask) (world : σ) : List Entry :=
  match engine.registry.lookup task.resource task.subjectType with
  | .error _ => []
  | .ok (resource, mapping) =>
    let session : Session σ := { engine, task, resource, mapping }
    (session.chronicled.phases (RunState.beside { world } [])).2.world.2

end Reconciliation

end Provisioning
